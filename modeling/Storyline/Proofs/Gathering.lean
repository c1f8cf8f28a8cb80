import Storyline.Script

/-!
# What lines are attached to

Lines are attached to the statement that the gatherer holds, and it holds on only to what may
have lines attached: steps, checks, examples, and doc-strings that stand alone. So no other
statement of a script has attached lines (`Script.extras_of_mem_parse`).
-/

namespace Storyline

/-- Whether a statement of this category may have lines attached in a script. -/
def Keyword.mayHold (kind : Keyword) : Bool := kind.takesExtras || kind == .docString

namespace Hold

/-- Whether what is held may be held. -/
def IsRightful : Hold → Prop
  | nothing => True
  | openTo s => s.kind.takesExtras = true
  | inside s => s.kind.mayHold = true

theorem mayHold_of_takesExtras {kind : Keyword} (h : kind.takesExtras = true) :
    kind.mayHold = true := by
  rw [Keyword.mayHold, h, Bool.true_or]

theorem isRightful_nothing : nothing.IsRightful := trivial

theorem isRightful_start (line : Line) :
    (start line).2.IsRightful ∧ ∀ s ∈ (start line).1, s.extras = [] := by
  rw [start]
  split
  · rename_i hk
    refine ⟨?_, List.forall_mem_nil _⟩
    change line.kind.mayHold = true
    rw [hk]
    rfl
  split
  · exact ⟨‹_›, List.forall_mem_nil _⟩
  · refine ⟨trivial, fun s hs => ?_⟩
    cases List.mem_singleton.mp hs
    rfl

/-- What is released by the next line has no lines attached, unless it may have some. -/
theorem isRightful_take {hold : Hold} (rightful : hold.IsRightful) (line : Line) :
    (hold.take line).2.IsRightful ∧
      ∀ s ∈ (hold.take line).1, s.kind.mayHold = true ∨ s.extras = [] := by
  obtain ⟨started, bare⟩ := isRightful_start line
  cases hold with
  | nothing => exact ⟨started, fun s hs => .inr (bare s hs)⟩
  | openTo s =>
      have may := mayHold_of_takesExtras rightful
      rw [take]
      split
      · exact ⟨may, List.forall_mem_nil _⟩
      split
      · exact ⟨rightful, List.forall_mem_nil _⟩
      · refine ⟨started, fun t ht => ?_⟩
        rcases List.mem_cons.mp ht with rfl | ht
        · exact .inl may
        · exact .inr (bare t ht)
  | inside s =>
      rw [take]
      split
      · exact ⟨rightful, List.forall_mem_nil _⟩
      split
      · refine ⟨trivial, fun t ht => ?_⟩
        cases List.mem_singleton.mp ht
        exact .inl rightful
      · rename_i no_docString
        refine ⟨?_, List.forall_mem_nil _⟩
        change s.kind.takesExtras = true
        have may : s.kind.takesExtras = true ∨ s.kind = .docString := by
          simpa [IsRightful, Keyword.mayHold] using rightful
        exact may.resolve_right no_docString

end Hold

namespace Script

theorem extras_of_mem_gather {hold : Hold} (rightful : hold.IsRightful) (lines : List Line) :
    ∀ s ∈ gather hold lines, s.kind.mayHold = true ∨ s.extras = [] := by
  induction lines generalizing hold with
  | nil =>
      intro s hs
      cases hold with
      | nothing => cases hs
      | openTo held =>
          cases List.mem_singleton.mp hs
          exact .inl (Hold.mayHold_of_takesExtras rightful)
      | inside held =>
          cases List.mem_singleton.mp hs
          exact .inl rightful
  | cons line rest ih =>
      intro s hs
      obtain ⟨kept, released⟩ := Hold.isRightful_take rightful line
      rcases List.mem_append.mp hs with hs | hs
      · exact released s hs
      · exact ih kept s hs

/-- Only steps, checks, examples and doc-strings have lines attached. -/
theorem extras_of_mem_parse (v : Vocabulary) (source : String) :
    ∀ s ∈ parse v source, s.kind.mayHold = true ∨ s.extras = [] :=
  extras_of_mem_gather Hold.isRightful_nothing (sourceLines v source)

end Script

end Storyline

import Storyline.Script

/-!
# Resolved paths

What counts in a path are its *components*: the root or the directory that it begins at, and each
piece that stands for a directory above or for a name. Resolving a path changes it only if its last
component is a name without an extension. Then the components above stay as they are, and the name
gets the extension of feature files (`Path.components_resolve`). A resolved path needs no resolving
any more (`Path.resolve_resolve`).
-/

namespace Storyline

namespace Path

/-! ## Names -/

/-- Whether a name is made of a stem and an extension. The dot between them is the last one in the
name, and it is not its first character. -/
structure HasParts (name stem extension : List Char) : Prop where
  whole : name = stem ++ '.' :: extension
  stem_ne_nil : stem ≠ []
  last_dot : '.' ∉ extension

theorem hasExtension_iff {name : List Char} :
    hasExtension name = true ↔ ∃ stem extension, HasParts name stem extension := by
  rw [hasExtension, List.contains_iff_mem]
  constructor
  · intro dotted
    obtain ⟨c, rest, rfl⟩ : ∃ c rest, name = c :: rest := by
      cases name with
      | nil => cases dotted
      | cons c rest => exact ⟨c, rest, rfl⟩
    -- The last dot is the first one from behind.
    obtain ⟨behind, front, turned, last_dot⟩ :=
      List.eq_append_cons_of_mem (List.mem_reverse.mpr dotted)
    have rest_eq : rest = front.reverse ++ '.' :: behind.reverse := by
      rw [List.drop_one, List.tail_cons, List.reverse_eq_iff] at turned
      rw [turned]
      simp
    refine ⟨c :: front.reverse, behind.reverse, ?_, List.cons_ne_nil _ _, ?_⟩
    · rw [rest_eq, List.cons_append]
    · rwa [List.mem_reverse]
  · rintro ⟨stem, extension, rfl, stem_ne_nil, -⟩
    obtain ⟨c, stem, rfl⟩ := List.exists_cons_of_ne_nil stem_ne_nil
    exact List.mem_append_right stem List.mem_cons_self

/-- A name with the extension of feature files has an extension. -/
theorem hasExtension_append {name : List Char} (nonempty : name ≠ []) :
    hasExtension (name ++ featureExtension) = true :=
  hasExtension_iff.mpr ⟨name, featureExtension.tail, rfl, nonempty, by decide⟩

theorem ne_nil_of_isIdle {name : List Char} (counts : isIdle name = false) : name ≠ [] := by
  rintro rfl
  cases counts

/-- A name with the extension of feature files is neither a dot nor two. -/
theorem name_append {name : List Char} (nonempty : name ≠ []) :
    isIdle (name ++ featureExtension) = false ∧ name ++ featureExtension ≠ parent := by
  obtain ⟨c, rest, rfl⟩ := List.exists_cons_of_ne_nil nonempty
  have long : 8 < (c :: rest ++ featureExtension).length := by
    rw [List.length_append, List.length_cons]
    have eight : featureExtension.length = 8 := rfl
    omega
  constructor
  · rw [isIdle, Bool.or_eq_false_iff, beq_eq_false_iff_ne, beq_eq_false_iff_ne]
    constructor
    · exact List.cons_ne_nil _ _
    · intro same
      rw [same] at long
      exact absurd long (by decide)
  · intro same
    rw [same] at long
    exact absurd long (by decide)

/-! ## Pieces -/

theorem join_append (pieces : List (List Char)) (last more : List Char) :
    join (pieces ++ [last]) ++ more = join (pieces ++ [last ++ more]) := by
  induction pieces with
  | nil => rw [List.nil_append, List.nil_append, join, join, List.intercalate_singleton,
      List.intercalate_singleton]
  | cons piece pieces ih =>
      have some_behind (last : List Char) : pieces ++ [last] ≠ [] := by simp
      rw [List.cons_append, List.cons_append, join, join,
        List.intercalate_cons_of_ne_nil (some_behind _),
        List.intercalate_cons_of_ne_nil (some_behind _), List.append_assoc]
      exact congrArg (piece ++ ['/'] ++ ·) ih

/-- Whether this is the last piece of a path that counts, below these pieces. -/
def EndsIn (path : List Char) (above : List (List Char)) (last : List Char) : Prop :=
  ∃ idle, pieces path = above ++ last :: idle ∧ isIdle last = false ∧
    ∀ piece ∈ idle, isIdle piece = true

/-- Of some pieces one is the last one that counts, or none counts. -/
theorem exists_last_or_idle (pieces : List (List Char)) :
    (∃ above last idle, pieces = above ++ last :: idle ∧ isIdle last = false ∧
        ∀ piece ∈ idle, isIdle piece = true) ∨
      ∀ piece ∈ pieces, isIdle piece = true := by
  induction pieces with
  | nil => exact .inr (List.forall_mem_nil _)
  | cons first rest ih =>
      rcases ih with ⟨above, last, idle, rfl, counts, all_idle⟩ | all_idle
      · exact .inl ⟨first :: above, last, idle, rfl, counts, all_idle⟩
      · cases counts : isIdle first with
        | false => exact .inl ⟨[], first, rest, rfl, counts, all_idle⟩
        | true => exact .inr (List.forall_mem_cons.mpr ⟨counts, all_idle⟩)

theorem endsIn_or_idle (path : List Char) :
    (∃ above last, EndsIn path above last) ∨ ∀ piece ∈ pieces path, isIdle piece = true := by
  rcases exists_last_or_idle (pieces path) with ⟨above, last, idle, ends⟩ | idle
  · exact .inl ⟨above, last, idle, ends⟩
  · exact .inr idle

section EndsIn

variable {path last : List Char} {above : List (List Char)}

theorem EndsIn.dropWhile_eq (ends : EndsIn path above last) :
    (pieces path).reverse.dropWhile isIdle = last :: above.reverse := by
  obtain ⟨idle, split, counts, all_idle⟩ := ends
  have behind : ∀ piece ∈ idle.reverse, isIdle piece = true := by
    intro piece among
    exact all_idle piece (List.mem_reverse.mp among)
  rw [split, List.reverse_append, List.reverse_cons, List.append_assoc,
    List.dropWhile_append_of_pos behind, List.singleton_append,
    List.dropWhile_cons_of_neg (by rw [counts]; exact Bool.false_ne_true)]

/-- No piece has a slash in it. -/
theorem EndsIn.slashless (ends : EndsIn path above last) :
    (∀ piece ∈ above, '/' ∉ piece) ∧ '/' ∉ last := by
  obtain ⟨idle, split, -, -⟩ := ends
  have slashless (piece : List Char) (among : piece ∈ above ++ last :: idle) : '/' ∉ piece :=
    Text.not_mem_of_mem_splitOn (split ▸ among)
  exact ⟨fun piece among => slashless piece (List.mem_append_left _ among),
    slashless last (List.mem_append_right _ List.mem_cons_self)⟩

/-! ## What resolving does -/

theorem EndsIn.resolveChars_of_bare (ends : EndsIn path above last) (named : last ≠ parent)
    (bare : hasExtension last = false) :
    resolveChars path = join (above ++ [last ++ featureExtension]) := by
  have other : ¬(last = parent ∨ hasExtension last = true) := by
    rw [bare, not_or]
    exact ⟨named, Bool.false_ne_true⟩
  rw [resolveChars, ends.dropWhile_eq]
  simp only [Bool.or_eq_true, decide_eq_true_eq, if_neg other, List.reverse_cons,
    List.reverse_reverse]
  exact join_append above last featureExtension

theorem EndsIn.resolveChars_of_not_bare (ends : EndsIn path above last)
    (kept : last = parent ∨ hasExtension last = true) : resolveChars path = path := by
  rw [resolveChars, ends.dropWhile_eq]
  simp only [Bool.or_eq_true, decide_eq_true_eq, if_pos kept]

theorem resolveChars_of_idle (idle : ∀ piece ∈ pieces path, isIdle piece = true) :
    resolveChars path = path := by
  have nothing : (pieces path).reverse.dropWhile isIdle = [] := by
    rw [← List.append_nil (pieces path).reverse, List.dropWhile_append_of_pos]
    · rfl
    · intro piece among
      exact idle piece (List.mem_reverse.mp among)
  rw [resolveChars, nothing]

/-- A resolved path ends in the name with its extension. -/
theorem EndsIn.resolved (ends : EndsIn path above last) :
    EndsIn (join (above ++ [last ++ featureExtension])) above (last ++ featureExtension) := by
  obtain ⟨above_slashless, last_slashless⟩ := ends.slashless
  obtain ⟨idle, -, counts, -⟩ := ends
  refine ⟨[], ?_, (name_append (ne_nil_of_isIdle counts)).1, List.forall_mem_nil _⟩
  refine List.splitOn_intercalate '/' ?_ (by simp)
  intro piece among
  rcases List.mem_append.mp among with among | among
  · exact above_slashless piece among
  · rw [List.mem_singleton.mp among, List.mem_append, not_or]
    exact ⟨last_slashless, by decide⟩

end EndsIn

theorem resolveChars_resolveChars (path : List Char) :
    resolveChars (resolveChars path) = resolveChars path := by
  rcases endsIn_or_idle path with ⟨above, last, ends⟩ | idle
  · by_cases kept : last = parent ∨ hasExtension last = true
    · rw [ends.resolveChars_of_not_bare kept, ends.resolveChars_of_not_bare kept]
    · rw [not_or, Bool.not_eq_true] at kept
      have nonempty : last ≠ [] := by
        obtain ⟨idle, -, counts, -⟩ := ends
        exact ne_nil_of_isIdle counts
      rw [ends.resolveChars_of_bare kept.1 kept.2]
      exact ends.resolved.resolveChars_of_not_bare (.inr (hasExtension_append nonempty))
  · rw [resolveChars_of_idle idle, resolveChars_of_idle idle]

/-- A resolved path needs no resolving any more. -/
theorem resolve_resolve (path : String) : resolve (resolve path) = resolve path := by
  rw [resolve, resolve, String.toList_ofList, resolveChars_resolveChars]

/-! ## Components -/

/-- A component of a path. -/
inductive Component where
  /-- The root, if a path begins with a slash. -/
  | root
  /-- The directory that a path begins at, if it begins with a single dot. -/
  | here
  /-- The directory above. -/
  | above
  /-- A directory or a file with this name. -/
  | named (name : List Char)
  deriving DecidableEq

/-- The component that a path with these pieces begins with, if it is the root or a single dot. -/
def anchor : List (List Char) → List Component
  | [] => []
  | first :: rest =>
      if first = [] ∧ rest ≠ [] then [.root] else if first = ['.'] then [.here] else []

/-- The component that a piece stands for, if it counts. -/
def component? (piece : List Char) : Option Component :=
  if isIdle piece then none else if piece = parent then some .above else some (.named piece)

/-- The components of a path. Slashes in a row count as one; a slash at the end does not count, nor
does a single dot behind the beginning. -/
def components (path : String) : List Component :=
  anchor (pieces path.toList) ++ (pieces path.toList).filterMap component?

section Components

variable {path : String} {last : List Char} {above idle : List (List Char)}

theorem anchor_ne_append_named (pieces : List (List Char)) (front : List Component)
    (name : List Char) : anchor pieces ≠ front ++ [.named name] := by
  intro same
  have final : (anchor pieces).getLast? = some (.named name) := by
    rw [same, List.getLast?_concat]
  cases pieces with
  | nil => cases final
  | cons first rest =>
      rw [anchor] at final
      split at final
      · cases final
      · split at final <;> cases final

/-- What a path begins with does not depend on its last piece, nor on what is behind it. -/
theorem anchor_append (above : List (List Char)) {last last' : List Char}
    (counts : isIdle last = false) (counts' : isIdle last' = false) (idle : List (List Char)) :
    anchor (above ++ last :: idle) = anchor (above ++ [last']) := by
  have none_of_last {last : List Char} (counts : isIdle last = false)
      (behind : List (List Char)) : anchor (last :: behind) = [] := by
    rw [isIdle, Bool.or_eq_false_iff, beq_eq_false_iff_ne, beq_eq_false_iff_ne] at counts
    rw [anchor, if_neg fun first => counts.1 first.1, if_neg counts.2]
  cases above with
  | nil => rw [List.nil_append, List.nil_append, none_of_last counts, none_of_last counts']
  | cons first rest => simp [anchor]

theorem component?_of_named (counts : isIdle last = false) (named : last ≠ parent) :
    component? last = some (.named last) := by
  rw [component?, counts, if_neg Bool.false_ne_true, if_neg named]

theorem filterMap_component?_of_idle (all_idle : ∀ piece ∈ idle, isIdle piece = true) :
    idle.filterMap component? = [] := by
  rw [List.filterMap_eq_nil_iff]
  intro piece among
  rw [component?, all_idle piece among, if_pos rfl]

/-- The last component of a path is its last piece that counts. -/
theorem EndsIn.components_eq (ends : EndsIn path.toList above last) {component : Component}
    (stands : component? last = some component) :
    components path =
      anchor (above ++ [last]) ++ above.filterMap component? ++ [component] := by
  obtain ⟨idle, split, counts, all_idle⟩ := ends
  rw [components, split, anchor_append above counts counts idle, List.filterMap_append,
    List.filterMap_cons_some stands, filterMap_component?_of_idle all_idle, List.append_assoc]

/-- If the last component is a name, it is the last piece that counts. -/
theorem endsIn_of_components {front : List Component} {name : List Char}
    (ending : components path = front ++ [.named name]) :
    name ≠ parent ∧ ∃ above, EndsIn path.toList above name ∧
      front = anchor (above ++ [name]) ++ above.filterMap component? := by
  rcases endsIn_or_idle path.toList with ⟨above, last, ends⟩ | idle
  · obtain ⟨-, -, counts, -⟩ := id ends
    by_cases upwards : last = parent
    · have stands : component? last = some .above := by
        rw [component?, counts, if_neg Bool.false_ne_true, if_pos upwards]
      rw [ends.components_eq stands, List.append_singleton_inj] at ending
      cases ending.2
    · rw [ends.components_eq (component?_of_named counts upwards),
        List.append_singleton_inj] at ending
      obtain ⟨same, named⟩ := ending
      cases named
      exact ⟨upwards, above, ends, same.symm⟩
  · rw [components, filterMap_component?_of_idle idle, List.append_nil] at ending
    exact absurd ending (anchor_ne_append_named _ _ _)

/-- A name without an extension gets one, below the same components. -/
theorem components_resolve {front : List Component} {name : List Char}
    (ending : components path = front ++ [.named name]) (bare : hasExtension name = false) :
    components (resolve path) = front ++ [.named (name ++ featureExtension)] := by
  obtain ⟨named, above, ends, rfl⟩ := endsIn_of_components ending
  obtain ⟨-, -, counts, -⟩ := id ends
  obtain ⟨counts', named'⟩ := name_append (ne_nil_of_isIdle counts)
  have resolved : (resolve path).toList = join (above ++ [name ++ featureExtension]) := by
    rw [resolve, String.toList_ofList, ends.resolveChars_of_bare named bare]
  have ends' : EndsIn (resolve path).toList above (name ++ featureExtension) :=
    resolved ▸ ends.resolved
  rw [ends'.components_eq (component?_of_named counts' named'),
    anchor_append above counts' counts []]

/-- A path changes only if its last component is a name without an extension. -/
theorem exists_of_resolve_ne (changed : resolve path ≠ path) :
    ∃ front name, components path = front ++ [.named name] ∧ hasExtension name = false := by
  have still (same : resolveChars path.toList = path.toList) : False := by
    apply changed
    rw [resolve, same, String.ofList_toList]
  rcases endsIn_or_idle path.toList with ⟨above, last, ends⟩ | idle
  · by_cases kept : last = parent ∨ hasExtension last = true
    · exact (still (ends.resolveChars_of_not_bare kept)).elim
    · rw [not_or, Bool.not_eq_true] at kept
      obtain ⟨-, -, counts, -⟩ := id ends
      exact ⟨_, last, ends.components_eq (component?_of_named counts kept.1), kept.2⟩
  · exact (still (resolveChars_of_idle idle)).elim

end Components

/-- What resolving a path comes to. -/
structure Resolves (path resolved : String) : Prop where
  /-- A resolved path needs no resolving any more. -/
  again : resolve resolved = resolved
  /-- A path changes just if its last component is a name without an extension. -/
  changed : resolved ≠ path ↔ ∃ front name, components path = front ++ [.named name] ∧
    ¬∃ stem extension, HasParts name stem extension
  /-- Then the name gets the extension of feature files, and nothing else changes. -/
  extended : ∀ front name, components path = front ++ [.named name] →
    (¬∃ stem extension, HasParts name stem extension) →
      components resolved = front ++ [.named (name ++ ".feature".toList)]

theorem resolves_resolve (path : String) : Resolves path (resolve path) := by
  have bare_iff (name : List Char) :
      (¬∃ stem extension, HasParts name stem extension) ↔ hasExtension name = false := by
    rw [← hasExtension_iff, Bool.not_eq_true]
  have extended (front : List Component) (name : List Char)
      (ending : components path = front ++ [.named name])
      (bare : ¬∃ stem extension, HasParts name stem extension) :
      components (resolve path) = front ++ [.named (name ++ featureExtension)] :=
    components_resolve ending ((bare_iff name).mp bare)
  refine ⟨resolve_resolve path, ⟨?_, ?_⟩, extended⟩
  · intro changed
    obtain ⟨front, name, ending, bare⟩ := exists_of_resolve_ne changed
    exact ⟨front, name, ending, (bare_iff name).mpr bare⟩
  · rintro ⟨front, name, ending, bare⟩ same
    have longer := extended front name ending bare
    rw [same, ending, List.append_singleton_inj, Component.named.injEq] at longer
    exact absurd longer.2 (by simp [featureExtension])

end Path

/-! ## Loading -/

namespace Script

variable {v : Vocabulary} {read : String → Except String String} {path : String}

theorem load_of_error {cause : String} (unreadable : read (Path.resolve path) = .error cause) :
    load v read path = .error (.unreadable (Path.resolve path) cause) := by
  simp only [load, unreadable]

theorem load_of_ok {text : String} (readable : read (Path.resolve path) = .ok text) :
    load v read path = .ok (parse v text) := by
  simp only [load, readable]

/-- From a resolved path the same script is loaded. -/
theorem load_resolve (v : Vocabulary) (read : String → Except String String) (path : String) :
    load v read (Path.resolve path) = load v read path := by
  rw [load, Path.resolve_resolve, load]

end Script

end Storyline

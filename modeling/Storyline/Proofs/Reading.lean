import Mathlib.Data.List.TakeWhile
import Storyline.Line
import Storyline.Proofs.Words

/-!
# How a line is cut

Reading a line cuts its text into indentation, keyword, colon and body, and loses nothing but blanks
between the parts (`Line.isCut_read`). Each cut is a maximal one: the indentation is the longest
blank beginning, the keyword is the longest word that stands behind it, and the body has no blank at
either end. The category is that of the keyword, or that of the leading punctuation where there is
no keyword (`Line.IsNamed`).
-/

namespace Storyline

/-! ## Blanks -/

namespace Text

variable {text : List Char}

/-- Whether a text consists of blanks. -/
def IsGap (text : String) : Prop := ∀ c ∈ text.toList, isBlank c = true

/-- Whether a text neither begins nor ends with a blank. -/
structure IsTrimmed (text : List Char) : Prop where
  first : ∀ c, text.head? = some c → isBlank c = false
  last : ∀ c, text.getLast? = some c → isBlank c = false

theorem isTrimmed_iff :
    IsTrimmed text ↔ text.head?.any isBlank = false ∧ text.getLast?.any isBlank = false := by
  rw [Option.any_eq_false, Option.any_eq_false]
  exact ⟨fun isTrimmed => ⟨isTrimmed.1, isTrimmed.2⟩, fun ⟨first, last⟩ => ⟨first, last⟩⟩

-- Only the two characters at the edges are looked at, not all the characters that there are.
instance (text : List Char) : Decidable (IsTrimmed text) := decidable_of_iff' _ isTrimmed_iff

theorem isGap_empty : IsGap "" := by
  intro c hc
  cases hc

theorem isGap_indent (text : List Char) : IsGap (String.ofList (indent text)) := by
  intro c hc
  rw [String.toList_ofList] at hc
  exact List.mem_takeWhile_imp hc

theorem isGap_blankTail (text : List Char) : IsGap (String.ofList (blankTail text)) := by
  intro c hc
  rw [String.toList_ofList, blankTail, List.mem_reverse] at hc
  exact List.mem_takeWhile_imp hc

/-- No longer beginning of a text is blank. -/
theorem prefix_indent {beginning : List Char} (begins : beginning <+: text)
    (blank : ∀ c ∈ beginning, isBlank c = true) : beginning <+: indent text := by
  obtain ⟨rest, rfl⟩ := begins
  rw [indent, List.takeWhile_append_of_pos blank]
  exact List.prefix_append _ _

theorem head?_trimStart (text : List Char) :
    ∀ c, (trimStart text).head? = some c → isBlank c = false := by
  intro c first
  have stopped := List.head?_dropWhile_not isBlank text
  rw [trimStart] at first
  rw [first] at stopped
  exact stopped

theorem isTrimmed_trimEnd (first : ∀ c, text.head? = some c → isBlank c = false) :
    IsTrimmed (trimEnd text) where
  first c hc := by
    apply first
    rw [← trimEnd_append_tail text, List.head?_append, hc]
    rfl
  last c hc := by
    rw [trimEnd, List.getLast?_reverse] at hc
    exact head?_trimStart text.reverse c hc

end Text

namespace Line

variable {v : Vocabulary} {number : Nat} {text word : String} {kind : Keyword} {rest : List Char}

/-! ## Categories -/

/-- The category that leading punctuation gives to a line. -/
inductive Punctuates : List Char → Keyword → Prop
  | quotes (rest : List Char) : Punctuates ('"' :: '"' :: '"' :: rest) .docString
  | bar (rest : List Char) : Punctuates ('|' :: rest) .dataTable
  | atSign (rest : List Char) : Punctuates ('@' :: rest) .tag
  | numberSign (rest : List Char) : Punctuates ('#' :: rest) .comments
  | nothing {rest : List Char} (quotes : ¬ ['"', '"', '"'] <+: rest)
      (mark : ∀ c, rest.head? = some c → c ≠ '|' ∧ c ≠ '@' ∧ c ≠ '#') : Punctuates rest .unknown

theorem punctuates_punctuation (rest : List Char) : Punctuates rest (punctuation rest) := by
  unfold punctuation
  split
  · rename_i quotes
    obtain ⟨behind, rfl⟩ := List.isPrefixOf_iff_prefix.mp quotes
    exact .quotes behind
  · rename_i quotes
    rw [List.isPrefixOf_iff_prefix] at quotes
    split
    · exact .bar _
    · exact .atSign _
    · exact .numberSign _
    · rename_i no_bar no_at no_number
      refine .nothing quotes fun c first => ?_
      obtain ⟨behind, rfl⟩ := List.head?_eq_some_iff.mp first
      exact ⟨fun same => no_bar behind (by rw [same]), fun same => no_at behind (by rw [same]),
        fun same => no_number behind (by rw [same])⟩

/-- The keyword and the category of a line whose text goes on like this behind its indentation. -/
inductive IsNamed (v : Vocabulary) (rest : List Char) : String → Keyword → Prop
  /-- The keyword is the longest word that stands there, and the category is that of the word. -/
  | word {word : String} {kind : Keyword} (longest : v.IsLongest rest word kind) :
      IsNamed v rest word kind
  /-- No word stands there. -/
  | bare {kind : Keyword}
      (no_word : ∀ word, (v.find? word).isSome → ¬ Vocabulary.IsLeading word.toList rest)
      (mark : Punctuates rest kind) : IsNamed v rest "" kind

/-! ## The parts of a line -/

theorem splitColon_cases (text : List Char) :
    (∃ rest, text = ':' :: rest ∧ splitColon text = (true, Text.trimStart rest)) ∨
      text.head? ≠ some ':' ∧ splitColon text = (false, text) := by
  rw [splitColon.eq_def]
  split
  · exact .inl ⟨_, rfl, rfl⟩
  · rename_i other
    refine .inr ⟨fun first => ?_, rfl⟩
    obtain ⟨rest, rfl⟩ := List.head?_eq_some_iff.mp first
    exact other rest rfl

/-- Whether a line is cut out of a text as it should be. -/
structure IsCut (v : Vocabulary) (number : Nat) (text : String) (line : Line) : Prop where
  numbered : line.number = number
  verbatim : line.text = text
  /-- The parts make up the text again, but for blanks around the colon and at the end. -/
  whole : ∃ before behind tail, Text.IsGap before ∧ Text.IsGap behind ∧ Text.IsGap tail ∧
    text = line.indent ++ line.keyword ++ before ++ (if line.colon then ":" else "") ++ behind ++
      line.body ++ tail ∧
    (line.colon = false → behind = "") ∧ (line.keyword = "" → before = "" ∧ behind = "")
  /-- The indentation is a blank beginning of the text. -/
  indented : Text.IsGap line.indent ∧ line.indent.toList <+: text.toList
  /-- There is no longer one. -/
  longest : ∀ beginning, beginning <+: text.toList → (∀ c ∈ beginning, Text.isBlank c = true) →
    beginning <+: line.indent.toList
  body : Text.IsTrimmed line.body.toList
  named : IsNamed v (text.toList.drop line.indent.length) line.keyword line.kind
  /-- Only a keyword has a colon. -/
  bare : line.keyword = "" → line.colon = false
  /-- A colon behind the keyword is taken out of the body. -/
  colon : line.keyword ≠ "" → line.colon = false → line.body.toList.head? ≠ some ':'

theorem drop_indent (text : String) :
    text.toList.drop (String.ofList (Text.indent text.toList)).length =
      Text.trimStart text.toList := by
  have whole := Text.indent_append_trimStart text.toList
  rw [String.length_ofList]
  calc text.toList.drop (Text.indent text.toList).length
      = (Text.indent text.toList ++ Text.trimStart text.toList).drop
          (Text.indent text.toList).length := by rw [whole]
    _ = Text.trimStart text.toList := List.drop_left

/-- The indentation is cut off before the vocabulary is asked. -/
theorem indented_read (v : Vocabulary) (number : Nat) (text : String) :
    Text.IsGap (read v number text).indent ∧
      (read v number text).indent.toList <+: text.toList := by
  rw [read_indent, String.toList_ofList]
  exact ⟨Text.isGap_indent _, List.takeWhile_prefix _⟩

theorem longest_read (v : Vocabulary) (number : Nat) {text : String} {beginning : List Char}
    (begins : beginning <+: text.toList) (blank : ∀ c ∈ beginning, Text.isBlank c = true) :
    beginning <+: (read v number text).indent.toList := by
  rw [read_indent, String.toList_ofList]
  exact Text.prefix_indent begins blank

/-- A line that begins with a word. -/
theorem isCut_of_word (number : Nat)
    (found : v.longestWord (Text.trimStart text.toList) = some (word, kind)) :
    (read v number text).IsCut v number text := by
  have longest := Vocabulary.isLongest_of_longestWord found
  have nonempty := longest.ne_empty
  obtain ⟨-, after, split, -⟩ := longest.leading
  have behind_word : (Text.trimStart text.toList).drop word.length = after := by
    rw [split]
    exact List.drop_left
  have named : IsNamed v (text.toList.drop (read v number text).indent.length) word kind := by
    rw [read_indent, drop_indent]
    exact .word longest
  have cut : text.toList = Text.indent text.toList ++ (word.toList ++
      (Text.indent after ++ Text.trimStart after)) := by
    rw [Text.indent_append_trimStart, ← split, Text.indent_append_trimStart]
  have read_eq : read v number text =
      { number, text, kind
        indent := String.ofList (Text.indent text.toList)
        keyword := word
        colon := (splitColon (Text.trimStart after)).1
        body := String.ofList (Text.trimEnd (splitColon (Text.trimStart after)).2) } := by
    rw [read, found]
    dsimp only
    rw [behind_word]
  have indented := indented_read v number text
  have no_longer := @longest_read v number text
  rw [read_eq] at indented no_longer named ⊢
  -- A colon takes the blanks behind it out of the body as well.
  rcases splitColon_cases (Text.trimStart after) with ⟨rest, colon, taken⟩ | ⟨no_colon, kept⟩
  · rw [taken]
    refine ⟨rfl, rfl, ?_, indented, fun _ => no_longer, ?_, named, fun bare => absurd bare nonempty,
      nofun⟩
    · refine ⟨_, _, _, Text.isGap_indent after, Text.isGap_indent rest,
        Text.isGap_blankTail (Text.trimStart rest), ?_, nofun, fun bare => absurd bare nonempty⟩
      apply String.toList_inj.mp
      conv_lhs => rw [cut, colon, ← Text.indent_append_trimStart rest,
        ← Text.trimEnd_append_tail (Text.trimStart rest)]
      simp
    · rw [String.toList_ofList]
      exact Text.isTrimmed_trimEnd (Text.head?_trimStart rest)
  · rw [kept]
    refine ⟨rfl, rfl, ?_, indented, fun _ => no_longer, ?_, named, fun bare => absurd bare nonempty,
      ?_⟩
    · refine ⟨_, _, _, Text.isGap_indent after, Text.isGap_empty,
        Text.isGap_blankTail (Text.trimStart after), ?_, fun _ => rfl,
        fun bare => absurd bare nonempty⟩
      apply String.toList_inj.mp
      conv_lhs => rw [cut, ← Text.trimEnd_append_tail (Text.trimStart after)]
      simp
    · rw [String.toList_ofList]
      exact Text.isTrimmed_trimEnd (Text.head?_trimStart after)
    · intro _ _ first
      apply no_colon
      rw [String.toList_ofList] at first
      rw [← Text.trimEnd_append_tail (Text.trimStart after), List.head?_append, first]
      rfl

/-- A line that begins with no word. -/
theorem isCut_of_bare (number : Nat) (none : v.longestWord (Text.trimStart text.toList) = none) :
    (read v number text).IsCut v number text := by
  have read_eq : read v number text =
      { number, text
        indent := String.ofList (Text.indent text.toList)
        keyword := ""
        kind := punctuation (Text.trimStart text.toList)
        colon := false
        body := String.ofList (Text.trimEnd (Text.trimStart text.toList)) } := by
    rw [read, none]
  have named : IsNamed v (text.toList.drop (read v number text).indent.length) ""
      (punctuation (Text.trimStart text.toList)) := by
    rw [read_indent, drop_indent]
    exact .bare (Vocabulary.longestWord_eq_none_iff.mp none) (punctuates_punctuation _)
  have indented := indented_read v number text
  have no_longer := @longest_read v number text
  rw [read_eq] at indented no_longer named ⊢
  refine ⟨rfl, rfl, ?_, indented, fun _ => no_longer, ?_, named, fun _ => rfl,
    fun named => absurd rfl named⟩
  · refine ⟨_, _, _, Text.isGap_empty, Text.isGap_empty,
      Text.isGap_blankTail (Text.trimStart text.toList), ?_, fun _ => rfl, fun _ => ⟨rfl, rfl⟩⟩
    apply String.toList_inj.mp
    conv_lhs => rw [← Text.indent_append_trimStart text.toList,
      ← Text.trimEnd_append_tail (Text.trimStart text.toList)]
    simp
  · rw [String.toList_ofList]
    exact Text.isTrimmed_trimEnd (Text.head?_trimStart text.toList)

theorem isCut (v : Vocabulary) (number : Nat) (text : String) :
    (read v number text).IsCut v number text := by
  cases found : v.longestWord (Text.trimStart text.toList) with
  | none => exact isCut_of_bare number found
  | some entry => exact isCut_of_word number found

theorem IsNamed.find?_eq (named : IsNamed v rest word kind) (nonempty : word ≠ "") :
    v.find? word = some kind := by
  cases named with
  | word longest => exact longest.found
  | bare => exact absurd rfl nonempty

/-- Reading a line cuts its text and loses nothing but blanks. The leading word decides the category
alone: another line with this word has this category, whatever else stands in it. -/
theorem isCut_read (v : Vocabulary) (number : Nat) (text : String) :
    (read v number text).IsCut v number text ∧
      ∀ number' text', (read v number text).keyword ≠ "" →
        (read v number' text').keyword = (read v number text).keyword →
          (read v number' text').kind = (read v number text).kind := by
  refine ⟨isCut v number text, fun number' text' nonempty same => ?_⟩
  have here := (isCut v number text).named.find?_eq nonempty
  have there := (isCut v number' text').named.find?_eq (same ▸ nonempty)
  rw [same, here] at there
  exact (Option.some.inj there).symm

/-- A keyword stays one, whatever its line goes on with. -/
example : (read .english 1 "  When Examples: are shown ").kind = .step := by decide +kernel

end Line

end Storyline

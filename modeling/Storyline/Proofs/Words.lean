import Mathlib.Data.Finset.Card
import Mathlib.Data.List.Nodup
import Storyline.Vocabulary

/-!
# The words of a vocabulary

A vocabulary is made by writing into it: one word, several words, or all that another vocabulary
holds. What it says about a word is what was written last about the word
(`Vocabulary.Written.find?_eq`), and the order of its entries says nothing.

Reading a line asks for the longest word that the line begins with. The words that a text begins
with are beginnings of one another, so no two of them have one length, and the answer is the
longest one (`Vocabulary.longestWord_eq_some_iff`). Hence all answers of a vocabulary follow from
what was written into it (`Vocabulary.answers_of_written`).
-/

namespace Storyline.Vocabulary

variable {v v' other : Vocabulary} {word : String} {kind : Keyword} {text : List Char}
variable {entries writes writes' : List (String × Keyword)}

/-! ## Looking up a word -/

/-- A word has one entry at most, so the first one found is the only one. -/
theorem find?_eq_some_iff : v.find? word = some kind ↔ (word, kind) ∈ v.entries := by
  rw [find?, List.lookup_eq_some_iff]
  constructor
  · rintro ⟨before, after, split, -⟩
    rw [split]
    exact List.mem_append_cons_self
  · intro entry
    obtain ⟨before, after, split⟩ := List.append_of_mem entry
    refine ⟨before, after, split, fun earlier found => ?_⟩
    have distinct := v.nodup
    rw [split, List.map_append, List.map_cons, List.nodup_append] at distinct
    have apart := distinct.2.2 earlier.1 (List.mem_map_of_mem found) word List.mem_cons_self
    simpa using Ne.symm apart

theorem find?_congr (same : ∀ entry, entry ∈ v'.entries ↔ entry ∈ v.entries) (word : String) :
    v'.find? word = v.find? word := by
  ext kind
  rw [find?_eq_some_iff, find?_eq_some_iff, same]

theorem isSome_find?_iff : (v.find? word).isSome ↔ word ∈ v.entries.map Prod.fst := by
  rw [Option.isSome_iff_exists, List.mem_map]
  constructor
  · rintro ⟨kind, found⟩
    exact ⟨(word, kind), find?_eq_some_iff.mp found, rfl⟩
  · rintro ⟨⟨_, kind⟩, entry, rfl⟩
    exact ⟨kind, find?_eq_some_iff.mpr entry⟩

theorem find?_insert (v : Vocabulary) (word : String) (kind : Keyword) (asked : String) :
    (v.insert word kind).find? asked = if asked = word then some kind else v.find? asked := by
  ext found
  rw [find?_eq_some_iff, insert]
  by_cases same : asked = word
  · simp [same, eq_comm]
  · simp [same, find?_eq_some_iff]

theorem find?_merge (v other : Vocabulary) (word : String) :
    (v.merge other).find? word = (other.find? word).or (v.find? word) := by
  have merged (entries : List (String × Keyword)) :
      (entries.foldr (fun entry v => insert v entry.1 entry.2) v).find? word =
        (entries.lookup word).or (v.find? word) := by
    induction entries with
    | nil => rfl
    | cons entry entries ih =>
        rw [List.foldr_cons, find?_insert, ih, List.lookup_cons]
        by_cases same : word = entry.1
        · simp [same]
        · rw [if_neg same, beq_eq_false_iff_ne.mpr same]
  exact merged other.entries

/-! ## What is written into a vocabulary -/

/-- The keyword that was written last for a word, if the word was written at all. -/
def lastWritten (writes : List (String × Keyword)) (word : String) : Option Keyword :=
  (writes.filter (·.1 = word)).getLast?.map Prod.snd

theorem lastWritten_append (writes later : List (String × Keyword)) (word : String) :
    lastWritten (writes ++ later) word = (lastWritten later word).or (lastWritten writes word) := by
  rw [lastWritten, List.filter_append, List.getLast?_append, Option.map_or]
  rfl

theorem lastWritten_singleton (word : String) (kind : Keyword) (asked : String) :
    lastWritten [(word, kind)] asked = if asked = word then some kind else none := by
  by_cases same : asked = word
  · simp [lastWritten, same]
  · simp [lastWritten, same, Ne.symm same]

theorem isSome_lastWritten_iff :
    (lastWritten writes word).isSome ↔ word ∈ writes.map Prod.fst := by
  rw [lastWritten, Option.isSome_map, List.getLast?_isSome, List.mem_map]
  simp [List.filter_eq_nil_iff]

/-- Whether a vocabulary comes about by these writes, one after the other. The writes into a
vocabulary that is merged follow those into the one that it is merged with. At any time the entries
may be put into another order. -/
inductive Written : Vocabulary → List (String × Keyword) → Prop
  | empty : Written .empty []
  | insert {v : Vocabulary} {writes : List (String × Keyword)} (written : Written v writes)
      (word : String) (kind : Keyword) : Written (v.insert word kind) (writes ++ [(word, kind)])
  | insertAll {v : Vocabulary} {writes : List (String × Keyword)} (written : Written v writes)
      (kind : Keyword) (words : List String) :
      Written (v.insertAll kind words) (writes ++ words.map (·, kind))
  | merge {v v' : Vocabulary} {writes writes' : List (String × Keyword)}
      (written : Written v writes) (written' : Written v' writes') :
      Written (v.merge v') (writes ++ writes')
  | shuffle {v v' : Vocabulary} {writes : List (String × Keyword)} (written : Written v writes)
      (order : v'.entries.Perm v.entries) : Written v' writes

/-- A vocabulary holds for each word what was written last. -/
theorem Written.find?_eq (written : v.Written writes) (word : String) :
    v.find? word = lastWritten writes word := by
  induction written with
  | empty => rfl
  | insert _ _ _ ih =>
      rw [find?_insert, lastWritten_append, lastWritten_singleton, ih]
      split <;> rfl
  | @insertAll v writes _ kind words ih =>
      -- The words are written one after the other.
      clear * - ih
      induction words generalizing v writes with
      | nil => simpa [Vocabulary.insertAll] using ih
      | cons first words rest =>
          have inserted : (v.insert first kind).find? word =
              lastWritten (writes ++ [(first, kind)]) word := by
            rw [find?_insert, lastWritten_append, lastWritten_singleton, ih]
            split <;> rfl
          rw [List.map_cons, List.append_cons]
          exact rest inserted
  | merge _ _ ih ih' => rw [find?_merge, lastWritten_append, ih, ih']
  | shuffle _ order ih => rw [find?_congr (fun _ => order.mem_iff), ih]

/-! ## The longest word -/

/-- Whether a text begins with a word: the word is not empty, and behind it the text ends or goes on
with a blank or a colon. -/
def IsLeading (word text : List Char) : Prop :=
  word ≠ [] ∧ ∃ rest, text = word ++ rest ∧
    ∀ c, rest.head? = some c → Text.isBlank c = true ∨ c = ':'

theorem leads_iff {word : List Char} : leads word text = true ↔ IsLeading word text := by
  have boundary (rest : List Char) : atBoundary rest = true ↔
      ∀ c, rest.head? = some c → Text.isBlank c = true ∨ c = ':' := by
    cases rest with
    | nil => simp [atBoundary]
    | cons c rest => simp [atBoundary]
  rw [leads, Bool.and_eq_true, Bool.and_eq_true, List.isPrefixOf_iff_prefix, boundary, IsLeading]
  constructor
  · rintro ⟨⟨nonempty, rest, rfl⟩, bounded⟩
    rw [List.drop_left] at bounded
    exact ⟨by simpa using nonempty, rest, rfl, bounded⟩
  · rintro ⟨nonempty, rest, rfl, bounded⟩
    rw [List.drop_left]
    exact ⟨⟨by simpa using nonempty, List.prefix_append _ _⟩, bounded⟩

/-- Two words of one length that begin the same text are the same word. -/
theorem IsLeading.eq_of_length {word word' : String} (leading : IsLeading word.toList text)
    (leading' : IsLeading word'.toList text) (same : word.length = word'.length) :
    word = word' := by
  obtain ⟨-, rest, split, -⟩ := leading
  obtain ⟨-, rest', rfl, -⟩ := leading'
  apply String.toList_inj.mp
  exact (List.append_inj split.symm same).1

theorem foldl_longer_eq_none {best : Option (String × Keyword)} :
    entries.foldl longer best = none ↔ entries = [] ∧ best = none := by
  induction entries generalizing best with
  | nil => simp
  | cons entry entries ih =>
      rw [List.foldl_cons, ih]
      cases best with
      | none => simp [longer]
      | some found =>
          rw [longer]
          split <;> simp

/-- A search goes on with the candidate at hand, or with what it had before and is no shorter. -/
theorem longer_cases (best : Option (String × Keyword)) (entry : String × Keyword) :
    longer best entry = some entry ∧
        (∀ other, best = some other → other.1.length ≤ entry.1.length) ∨
      ∃ found, best = some found ∧ longer best entry = some found ∧
        entry.1.length ≤ found.1.length := by
  cases best with
  | none => exact .inl ⟨rfl, nofun⟩
  | some found =>
      by_cases shorter : found.1.length < entry.1.length
      · refine .inl ⟨if_pos shorter, ?_⟩
        rintro _ ⟨⟩
        exact Nat.le_of_lt shorter
      · exact .inr ⟨found, rfl, if_neg shorter, Nat.le_of_not_lt shorter⟩

/-- What is left of a search is one of the candidates, and none of them is longer. -/
theorem foldl_longer_eq_some {best : Option (String × Keyword)} {entry : String × Keyword}
    (last : entries.foldl longer best = some entry) :
    (entry ∈ entries ∨ best = some entry) ∧
      (∀ other ∈ entries, other.1.length ≤ entry.1.length) ∧
      ∀ other, best = some other → other.1.length ≤ entry.1.length := by
  induction entries generalizing best with
  | nil =>
      rw [List.foldl_nil] at last
      subst last
      refine ⟨.inr rfl, List.forall_mem_nil _, ?_⟩
      rintro _ ⟨⟩
      exact Nat.le_refl _
  | cons first entries ih =>
      obtain ⟨among, longest, held⟩ := ih last
      rcases longer_cases best first with ⟨now, before⟩ | ⟨found, rfl, kept, shorter⟩
      · rw [now] at among
        have reached := held first now
        refine ⟨.inl ?_, List.forall_mem_cons.mpr ⟨reached, longest⟩,
          fun other same => Nat.le_trans (before other same) reached⟩
        rcases among with later | same
        · exact List.mem_cons_of_mem _ later
        · cases same
          exact List.mem_cons_self
      · rw [kept] at among
        have reached := held found kept
        refine ⟨among.imp_left (List.mem_cons_of_mem _),
          List.forall_mem_cons.mpr ⟨Nat.le_trans shorter reached, longest⟩, ?_⟩
        rintro _ ⟨⟩
        exact reached

/-- Whether this is the longest word that a text begins with. -/
structure IsLongest (v : Vocabulary) (text : List Char) (word : String) (kind : Keyword) :
    Prop where
  found : v.find? word = some kind
  leading : IsLeading word.toList text
  longest : ∀ other, (v.find? other).isSome → IsLeading other.toList text →
    other.length ≤ word.length

theorem IsLongest.ne_empty (longest : v.IsLongest text word kind) : word ≠ "" := by
  rintro rfl
  exact longest.leading.1 rfl

theorem isLongest_of_longestWord (found : v.longestWord text = some (word, kind)) :
    v.IsLongest text word kind := by
  obtain ⟨among, longest, -⟩ := foldl_longer_eq_some found
  obtain ⟨entry, leads⟩ := List.mem_filter.mp (among.resolve_right nofun)
  refine ⟨find?_eq_some_iff.mpr entry, leads_iff.mp leads, fun other held leading => ?_⟩
  obtain ⟨kind', held⟩ := Option.isSome_iff_exists.mp held
  exact longest (other, kind')
    (List.mem_filter.mpr ⟨find?_eq_some_iff.mp held, leads_iff.mpr leading⟩)

theorem longestWord_eq_none_iff : v.longestWord text = none ↔
    ∀ word, (v.find? word).isSome → ¬ IsLeading word.toList text := by
  rw [longestWord, foldl_longer_eq_none, List.filter_eq_nil_iff]
  constructor
  · rintro ⟨none_leads, -⟩ word held leading
    obtain ⟨kind, held⟩ := Option.isSome_iff_exists.mp held
    exact none_leads (word, kind) (find?_eq_some_iff.mp held) (leads_iff.mpr leading)
  · intro none_leads
    refine ⟨fun entry among leads => ?_, rfl⟩
    have held : (v.find? entry.1).isSome := isSome_find?_iff.mpr (List.mem_map_of_mem among)
    exact none_leads entry.1 held (leads_iff.mp leads)

/-- The longest word is found, whatever the order of the entries. -/
theorem longestWord_eq_some_iff :
    v.longestWord text = some (word, kind) ↔ v.IsLongest text word kind := by
  refine ⟨isLongest_of_longestWord, fun longest => ?_⟩
  have held : (v.find? word).isSome := by rw [longest.found]; rfl
  cases found : v.longestWord text with
  | none => exact absurd longest.leading (longestWord_eq_none_iff.mp found word held)
  | some entry =>
      obtain ⟨word', kind'⟩ := entry
      have longest' := isLongest_of_longestWord found
      have held' : (v.find? word').isSome := by rw [longest'.found]; rfl
      have same : word = word' := by
        apply longest.leading.eq_of_length longest'.leading
        exact Nat.le_antisymm (longest'.longest word held longest.leading)
          (longest.longest word' held' longest'.leading)
      subst same
      have kinds := longest.found.symm.trans longest'.found
      cases kinds
      rfl

theorem longestWord_congr (same : ∀ word, v'.find? word = v.find? word) (text : List Char) :
    v'.longestWord text = v.longestWord text := by
  ext ⟨word, kind⟩
  rw [longestWord_eq_some_iff, longestWord_eq_some_iff]
  constructor
  · rintro ⟨found, leading, longest⟩
    simp only [same] at found longest
    exact ⟨found, leading, longest⟩
  · rintro ⟨found, leading, longest⟩
    simp only [← same] at found longest
    exact ⟨found, leading, longest⟩

/-! ## The answers of a vocabulary -/

/-- Whether a vocabulary answers all questions by what was written into it. -/
structure Answers (v : Vocabulary) (writes : List (String × Keyword)) : Prop where
  /-- A word has the keyword that was written last for it. -/
  resolve : ∀ word, v.resolve word = (lastWritten writes word).getD .unknown
  /-- Each word counts once, however often it was written. -/
  size : v.size = (writes.map Prod.fst).toFinset.card
  /-- The next write of a word hands out the last one. -/
  exchanged : ∀ word kind, (v.exchange word kind).1 = lastWritten writes word
  /-- The longest word that a text begins with is one that was written. -/
  longest : ∀ text word kind, v.longestWord text = some (word, kind) ↔
    word ∈ writes.map Prod.fst ∧ IsLeading word.toList text ∧ kind = v.resolve word ∧
      ∀ other ∈ writes.map Prod.fst, IsLeading other.toList text → other.length ≤ word.length
  /-- There is none only if the text begins with no word that was written. -/
  none : ∀ text, v.longestWord text = none ↔
    ∀ word ∈ writes.map Prod.fst, ¬ IsLeading word.toList text

/-- Whether two vocabularies answer alike. -/
structure Agrees (v v' : Vocabulary) : Prop where
  find? : ∀ word, v.find? word = v'.find? word
  resolve : ∀ word, v.resolve word = v'.resolve word
  size : v.size = v'.size
  longestWord : ∀ text, v.longestWord text = v'.longestWord text

theorem Written.isSome_find?_iff (written : v.Written writes) :
    (v.find? word).isSome ↔ word ∈ writes.map Prod.fst := by
  rw [written.find?_eq, isSome_lastWritten_iff]

theorem Written.size_eq (written : v.Written writes) :
    v.size = (writes.map Prod.fst).toFinset.card := by
  have same : (writes.map Prod.fst).toFinset = (v.entries.map Prod.fst).toFinset := by
    ext word
    rw [List.mem_toFinset, List.mem_toFinset, ← written.isSome_find?_iff,
      Vocabulary.isSome_find?_iff]
  rw [same, List.toFinset_card_of_nodup v.nodup, List.length_map]
  rfl

theorem Written.answers (written : v.Written writes) : v.Answers writes where
  resolve word := by rw [Vocabulary.resolve, written.find?_eq]
  size := written.size_eq
  exchanged word _ := written.find?_eq word
  longest text word kind := by
    rw [longestWord_eq_some_iff]
    constructor
    · rintro ⟨found, leading, longest⟩
      simp only [written.isSome_find?_iff] at longest
      refine ⟨written.isSome_find?_iff.mp (by rw [found]; rfl), leading, ?_, longest⟩
      rw [Vocabulary.resolve, found]
      rfl
    · rintro ⟨among, leading, rfl, longest⟩
      obtain ⟨kind, found⟩ := Option.isSome_iff_exists.mp (written.isSome_find?_iff.mpr among)
      refine ⟨?_, leading, ?_⟩
      · rw [Vocabulary.resolve, found]
        rfl
      · simpa only [written.isSome_find?_iff] using longest
  none text := by
    rw [longestWord_eq_none_iff]
    simp only [written.isSome_find?_iff]

/-- What was written into a vocabulary decides all its answers: the last write for a word counts,
and neither the order in which different words were written nor the order of the entries does. -/
theorem answers_of_written (written : v.Written writes) :
    v.Answers writes ∧
      ∀ (v' : Vocabulary) (writes' : List (String × Keyword)), v'.Written writes' →
        (∀ word, writes'.filter (·.1 = word) = writes.filter (·.1 = word)) → v'.Agrees v := by
  refine ⟨written.answers, fun v' writes' written' same => ?_⟩
  have found (word : String) : v'.find? word = v.find? word := by
    rw [written'.find?_eq, written.find?_eq, lastWritten, lastWritten, same]
  refine ⟨found, fun word => ?_, ?_, longestWord_congr found⟩
  · rw [Vocabulary.resolve, Vocabulary.resolve, found]
  · rw [written'.size_eq, written.size_eq]
    congr 1
    ext word
    rw [List.mem_toFinset, List.mem_toFinset, ← written'.isSome_find?_iff,
      ← written.isSome_find?_iff, found]

/-- A word that is written again by a merge. -/
theorem answers_of_written_merged :
    ((empty.insert "Soit" .step).merge (empty.insertAll .scenario ["Soit", "Soit que"])).Written
        [("Soit", .step), ("Soit", .scenario), ("Soit que", .scenario)] ∧
      ((empty.insert "Soit" .step).merge (empty.insertAll .scenario ["Soit", "Soit que"])).Answers
        [("Soit", .step), ("Soit", .scenario), ("Soit que", .scenario)] ∧
      ((empty.insertAll .scenario ["Soit que", "Soit"]).Agrees
        ((empty.insertAll .scenario ["Soit"]).insert "Soit que" .scenario)) := by
  have merged := (Written.empty.insert "Soit" .step).merge
    (Written.empty.insertAll .scenario ["Soit", "Soit que"])
  have turned := Written.empty.insertAll .scenario ["Soit que", "Soit"]
  have straight := (Written.empty.insertAll .scenario ["Soit"]).insert "Soit que" .scenario
  refine ⟨merged, (answers_of_written merged).1, ?_⟩
  refine (answers_of_written straight).2 _ _ turned fun word => ?_
  by_cases first : "Soit" = word
  · subst first
    rfl
  · by_cases second : "Soit que" = word
    · subst second
      rfl
    · simp [first, second]

end Storyline.Vocabulary

import Storyline.Keyword
import Storyline.Text.Blank

/-!
# Vocabularies

A vocabulary maps words, or phrases of several words, to keywords. It is a finite
map: no word stands in it twice, and a later entry for a word replaces an earlier
one. Vocabularies are merged with the second one winning.

Reading a line asks for the *longest* word that the line begins with. A word only
counts at a boundary, where the text ends or a blank or a colon follows. Two words
of one length that begin the same text are the same word, so the longest one is
unique and the order of the entries never shows.
-/

namespace Storyline

/-- A finite map from words to keywords. -/
structure Vocabulary where
  /-- The entries, in no order that matters. -/
  entries : List (String × Keyword)
  /-- No word has two entries. -/
  nodup : (entries.map Prod.fst).Nodup

namespace Vocabulary

/-- The vocabulary without words. -/
def empty : Vocabulary := ⟨[], List.nodup_nil⟩

/-- The keyword of a word, if the word has one. -/
def find? (v : Vocabulary) (word : String) : Option Keyword := v.entries.lookup word

/-- The keyword of a word; a word without an entry is `unknown`. -/
def resolve (v : Vocabulary) (word : String) : Keyword := (v.find? word).getD .unknown

/-- Maps a word to a keyword, whatever it was mapped to before. -/
def insert (v : Vocabulary) (word : String) (kind : Keyword) : Vocabulary where
  entries := (word, kind) :: v.entries.filter (·.1 != word)
  nodup := by
    rw [List.map_cons, List.nodup_cons]
    refine ⟨?_, (List.filter_sublist.map Prod.fst).nodup v.nodup⟩
    simp

/-- Maps a word to a keyword, and hands out the keyword that the word had before. -/
def exchange (v : Vocabulary) (word : String) (kind : Keyword) : Option Keyword × Vocabulary :=
  (v.find? word, v.insert word kind)

/-- Maps several words to one keyword. -/
def insertAll (v : Vocabulary) (kind : Keyword) (words : List String) : Vocabulary :=
  words.foldl (fun v word => v.insert word kind) v

/-- The union of two vocabularies; the entries of `other` win. -/
def merge (v other : Vocabulary) : Vocabulary :=
  other.entries.foldr (fun entry v => v.insert entry.1 entry.2) v

/-- The number of words. -/
def size (v : Vocabulary) : Nat := v.entries.length

/-- Whether there are no words. -/
def isEmpty (v : Vocabulary) : Bool := v.entries.isEmpty

/-- Whether a word may end where `rest` begins. -/
def atBoundary (rest : List Char) : Bool :=
  match rest with
  | [] => true
  | c :: _ => Text.isBlank c || c == ':'

/-- Whether a text begins with a word: the word is not empty, is a beginning of the
text, and ends at a boundary. -/
def leads (word text : List Char) : Bool :=
  !word.isEmpty && word.isPrefixOf text && atBoundary (text.drop word.length)

/-- The entry with the longer word. -/
def longer (best : Option (String × Keyword)) (entry : String × Keyword) :
    Option (String × Keyword) :=
  match best with
  | none => some entry
  | some b => if b.1.length < entry.1.length then some entry else some b

/-- The longest word that the text begins with, and its keyword. -/
def longestWord (v : Vocabulary) (text : List Char) : Option (String × Keyword) :=
  (v.entries.filter fun entry => leads entry.1.toList text).foldl longer none

/-- The English vocabulary. -/
def english : Vocabulary :=
  empty
    |>.insertAll .feature ["Feature", "Business Need", "Ability"]
    |>.insertAll .rule ["Rule"]
    |>.insertAll .scenario ["Scenario", "Example"]
    |>.insertAll .step ["Given", "When", "Then", "And", "But", "*"]
    |>.insertAll .background ["Background"]
    |>.insertAll .scenarioOutline ["Scenario Outline", "Scenario Template"]
    |>.insertAll .examples ["Examples", "Scenarios"]
    |>.insertAll .ask ["Ask", "Confirm"]

end Vocabulary

end Storyline

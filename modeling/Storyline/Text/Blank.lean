/-!
# Blank characters

Indentation, trimming and word boundaries all speak of *blank* characters: the
twenty-five code points that Unicode gives the property `White_Space`. Nothing
else about a character is blank-sensitive, so this module fixes the class once
and derives the cuts from it.

Texts are cut as lists of characters. Each cut is a `takeWhile`/`dropWhile` pair,
so what is cut off and what is kept always append to the text again
(`indent_append_trimStart`, `trimEnd_append_tail`).
-/

namespace Storyline.Text

/-- The code points with the Unicode property `White_Space`. -/
def isBlank (c : Char) : Bool :=
  let n := c.toNat
  (0x09 ≤ n && n ≤ 0x0D) || n == 0x20 || n == 0x85 || n == 0xA0 || n == 0x1680 ||
    (0x2000 ≤ n && n ≤ 0x200A) || n == 0x2028 || n == 0x2029 || n == 0x202F ||
    n == 0x205F || n == 0x3000

/-- The longest blank beginning of a text. -/
def indent (text : List Char) : List Char := text.takeWhile isBlank

/-- A text without its blank beginning. -/
def trimStart (text : List Char) : List Char := text.dropWhile isBlank

/-- The longest blank end of a text. -/
def blankTail (text : List Char) : List Char := (text.reverse.takeWhile isBlank).reverse

/-- A text without its blank end. -/
def trimEnd (text : List Char) : List Char := (text.reverse.dropWhile isBlank).reverse

/-- A text without blanks at either end. -/
def trim (text : List Char) : List Char := trimEnd (trimStart text)

/-- A text without at most `margin` blank characters at its beginning. -/
def dropMargin : Nat → List Char → List Char
  | margin + 1, c :: rest => if isBlank c then dropMargin margin rest else c :: rest
  | _, text => text

@[simp] theorem indent_append_trimStart (text : List Char) :
    indent text ++ trimStart text = text :=
  List.takeWhile_append_dropWhile

@[simp] theorem trimEnd_append_tail (text : List Char) :
    trimEnd text ++ blankTail text = text := by
  rw [trimEnd, blankTail, ← List.reverse_append, List.takeWhile_append_dropWhile,
    List.reverse_reverse]

@[simp] theorem trimStart_nil : trimStart [] = [] := rfl
@[simp] theorem trimEnd_nil : trimEnd [] = [] := rfl
@[simp] theorem trim_nil : trim [] = [] := rfl

end Storyline.Text

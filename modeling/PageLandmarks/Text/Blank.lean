/-!
# PageLandmarks.Text.Blank

**Blank characters**, and the operations on text that are defined through
them: `strip` drops the blanks at both ends, `words` lists the maximal
blank-free runs, `squeeze` removes every blank.

The class is one fixed table of code points. It holds the ASCII separators
U+001C to U+001F, which the Unicode `White_Space` property does not.
-/

namespace PageLandmarks.Text

/-- The blank code points above U+0020, as inclusive ranges in increasing
order. -/
def blankRanges : List (Nat × Nat) :=
  [(0x85, 0x85), (0xA0, 0xA0), (0x1680, 0x1680), (0x2000, 0x200A), (0x2028, 0x2029),
    (0x202F, 0x202F), (0x205F, 0x205F), (0x3000, 0x3000)]

/-- A code point is blank if it separates words. -/
def isBlank (c : Char) : Bool :=
  let n := c.toNat
  if n ≤ 0x20 then (0x09 ≤ n && n ≤ 0x0D) || 0x1C ≤ n
  else blankRanges.any fun r => r.1 ≤ n && n ≤ r.2

/-- The number of blanks that `cs` begins with. -/
def blankRun (cs : List Char) : Nat := (cs.takeWhile isBlank).length

/-- The text without its leading blanks. -/
def stripLeft (cs : List Char) : List Char := cs.dropWhile isBlank

/-- The text without its trailing blanks. -/
def stripRight (cs : List Char) : List Char := (stripLeft cs.reverse).reverse

/-- The text without the blanks at its two ends. -/
def strip (cs : List Char) : List Char := stripRight (stripLeft cs)

/-- The text without any blank. -/
def squeeze (cs : List Char) : List Char := cs.filter fun c => !isBlank c

/-- The maximal blank-free runs of the text after `word`, a run already begun
and held in reverse. -/
def wordsFrom (word : List Char) : List Char → List (List Char)
  | [] => if word.isEmpty then [] else [word.reverse]
  | c :: cs =>
    if isBlank c then
      if word.isEmpty then wordsFrom [] cs else word.reverse :: wordsFrom [] cs
    else wordsFrom (c :: word) cs

/-- The maximal blank-free runs of the text, in order. -/
def words (cs : List Char) : List (List Char) := wordsFrom [] cs

end PageLandmarks.Text

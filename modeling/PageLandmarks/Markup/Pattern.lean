import PageLandmarks.Text.Blank

/-!
# PageLandmarks.Markup.Pattern

**Patterns**: how far a text matches from its beginning on. A pattern answers
with the length of what it matches, so that what follows is always `drop`ped
from the text at hand and is plainly a part of it.
-/

namespace PageLandmarks.Markup

open Text (isBlank blankRun)

/-- The length of what the text begins with, if it does. -/
abbrev Pattern := List Char → Option Nat

/-- The characters of `cs` from `start` up to `stop`, as a string. -/
def slice (start stop : Nat) (cs : List Char) : String :=
  .ofList ((cs.drop start).take (stop - start))

/-- The length of the text through the first `c` from `start` on. -/
def through (c : Char) (start : Nat) (cs : List Char) : Option Nat :=
  ((cs.drop start).findIdx? (· == c)).map (start + · + 1)

/-- The first place where the pattern matches, and the length of the match. -/
def search (pattern : Pattern) : List Char → Option (Nat × Nat)
  | [] => none
  | c :: cs =>
    match pattern (c :: cs) with
    | some length => some (0, length)
    | none => (search pattern cs).map fun (start, length) => (start + 1, length)

/-- The single character `c`. -/
def char (c : Char) : Pattern
  | d :: _ => if d = c then some 1 else none
  | [] => none

/-- One pattern after another. -/
def seq (p q : Pattern) : Pattern := fun cs => do
  let n ← p cs
  let m ← q (cs.drop n)
  return n + m

/-- Any number of blanks. -/
def blanks : Pattern := fun cs => some (blankRun cs)

/-- Blanks and then the character `c`. -/
def charAfterBlanks (c : Char) : Pattern := seq blanks (char c)

/-- The end of a comment: two hyphens, blanks, `>`. -/
def commentEnd : Pattern := seq (char '-') (seq (char '-') (charAfterBlanks '>'))

/-- The end of a marked section with one closing bracket. -/
def bracketEnd : Pattern := seq (char ']') (charAfterBlanks '>')

/-- The end of a marked section with two closing brackets. -/
def doubleBracketEnd : Pattern := seq (char ']') (seq (charAfterBlanks ']') (charAfterBlanks '>'))

/-- An ASCII letter followed by characters of a class. -/
def nameOf (isNameChar : Char → Bool) : Pattern
  | c :: cs => if c.isAlpha then some (1 + (cs.takeWhile isNameChar).length) else none
  | [] => none

/-- A character of a tag's name. -/
def isTagNameChar (c : Char) : Bool :=
  !(c == '\t' || c == '\n' || c == '\r' || c == '\x0c' || c == ' ' || c == '/' || c == '>' ||
    c == '\x00')

/-- A character of the name in a plain end tag. -/
def isEndNameChar (c : Char) : Bool :=
  c.isAlphanum || c == '-' || c == '.' || c == ':' || c == '_'

/-- A character of the keyword of a marked section. -/
def isKeywordChar (c : Char) : Bool :=
  c.isAlphanum || c == '-' || c == '.' || c == '_'

/-- A plain end tag without attributes. -/
def plainEndTag : Pattern :=
  seq (char '<') (seq (char '/') (seq blanks (seq (nameOf isEndNameChar) (charAfterBlanks '>'))))

/-! ### The end of raw text -/

/-- A character that matches a lower-case ASCII letter when case is ignored:
besides the two cases of the letter, the long s matches `s`, and the dotless i
and the dotted capital I match `i`. -/
def matchesLetter (letter c : Char) : Bool :=
  c.toLower == letter || (letter == 's' && c == 'ſ') ||
    (letter == 'i' && (c == 'ı' || c == 'İ'))

/-- A word of lower-case letters, in any case. -/
def wordIgnoringCase : List Char → Pattern
  | [], _ => some 0
  | _ :: _, [] => none
  | letter :: letters, c :: cs =>
    if matchesLetter letter c then (wordIgnoringCase letters cs).map (1 + ·) else none

/-- An end tag of this name, in any case. -/
def endTagOf (name : String) : Pattern :=
  seq (char '<') (seq (char '/')
    (seq blanks (seq (wordIgnoringCase name.toList) (charAfterBlanks '>'))))

end PageLandmarks.Markup

import PageLandmarks.Text.Hex
import PageLandmarks.Text.Printable

/-!
# PageLandmarks.Text.Quoted

**Quoted text**, the form in which a message shows a text that came from
outside. Single quotes enclose it, or double quotes if it holds a single quote
and no double one. The enclosing quote and the backslash are escaped, and so is
every character that is not printable. `quotedPoints` shows code points that need
not be characters in the same way.
-/

namespace PageLandmarks.Text

/-- The quote that encloses a text. -/
def quoteFor (cs : List Char) : Char :=
  if cs.contains '\'' && !cs.contains '"' then '"' else '\''

/-- One character of a text that `quote` encloses. -/
def quotedChar (quote c : Char) : List Char :=
  if c = quote ∨ c = '\\' then ['\\', c]
  else if c = '\n' then ['\\', 'n']
  else if c = '\r' then ['\\', 'r']
  else if c = '\t' then ['\\', 't']
  else if isPrintable c then [c]
  else if c.toNat < 0x100 then '\\' :: 'x' :: hex 2 c.toNat
  else if c.toNat < 0x10000 then '\\' :: 'u' :: hex 4 c.toNat
  else '\\' :: 'U' :: hex 8 c.toNat

/-- The text in quotes. -/
def quoted (s : String) : String :=
  let quote := quoteFor s.toList
  .ofList (quote :: s.toList.flatMap (quotedChar quote) ++ [quote])

/-- The character with this code point, or an escape if there is none. -/
def quotedPoint (quote : Char) (n : Nat) : List Char :=
  if n.isValidChar then quotedChar quote (Char.ofNat n) else '\\' :: 'u' :: hex 4 n

/-- Code points in quotes. -/
def quotedPoints (points : List Nat) : String :=
  let quote := quoteFor (points.map Char.ofNat)
  .ofList (quote :: points.flatMap (quotedPoint quote) ++ [quote])

/-- A list of texts, each in quotes, in square brackets. -/
def quotedList (ss : List String) : String :=
  "[" ++ ", ".intercalate (ss.map quoted) ++ "]"

end PageLandmarks.Text

import PageLandmarks.Markup.Entity
import PageLandmarks.Text.Digit
import PageLandmarks.Text.Hex

/-!
# PageLandmarks.Markup.Reference

**Character references**, the `&…` forms that stand for characters. They are
resolved in two ways: `textNumber` and `textName` in running text, `unescape` in
the value of an attribute, where the semicolon may be missing, a longer name may
begin with a known one, and control characters vanish.
-/

namespace PageLandmarks.Markup

/-- The character that stands for what cannot be shown. -/
def replacement : Char := '\ufffd'

/-- What the numbers 0x80 to 0x9F refer to: the characters of code page 1252.
The five numbers that it leaves open refer to themselves. -/
def codePage1252 : List (Nat × Char) :=
  [(0x80, '€'), (0x82, '‚'), (0x83, 'ƒ'), (0x84, '„'), (0x85, '…'), (0x86, '†'), (0x87, '‡'),
    (0x88, 'ˆ'), (0x89, '‰'), (0x8A, 'Š'), (0x8B, '‹'), (0x8C, 'Œ'), (0x8E, 'Ž'), (0x91, '‘'),
    (0x92, '’'), (0x93, '“'), (0x94, '”'), (0x95, '•'), (0x96, '–'), (0x97, '—'), (0x98, '˜'),
    (0x99, '™'), (0x9A, 'š'), (0x9B, '›'), (0x9C, 'œ'), (0x9E, 'ž'), (0x9F, 'Ÿ')]

/-- The character that a number refers to: none for zero, for a surrogate and
for a number beyond the last code point. -/
def numbered? (n : Nat) : Option Char :=
  match codePage1252.lookup n with
  | some c => some c
  | none => if n ≠ 0 ∧ n.isValidChar then some (Char.ofNat n) else none

/-- The number written in decimal digits. -/
def decimalValue (ds : List Char) : Nat := Text.ofDigits ds

/-- The number of digits of the decimal reference that the text begins with, zero
if it begins with none. -/
def decimalDigits (cs : List Char) : Nat :=
  if "&#".toList.isPrefixOf cs then ((cs.drop 2).takeWhile Char.isDigit).length else 0

/-- The number written in hexadecimal digits. -/
def hexValue (ds : List Char) : Nat := (Text.ofHex? ds).getD 0

/-! ### Running text -/

/-- What a numeric reference in running text stands for. -/
def textNumber (n : Nat) : List Char := [(numbered? n).getD replacement]

/-- What a named reference in running text stands for: an unknown name is
itself, after the ampersand. -/
def textName (name : List Char) : List Char := (Entity.lookup name).getD ('&' :: name)

/-! ### Attribute values -/

/-- A number whose character is left out of an attribute value: a control
character other than tab, line ends and form feed, or a code point that is never
assigned. -/
def isDropped (n : Nat) : Bool :=
  (0x01 ≤ n && n ≤ 0x08) || n == 0x0B || (0x0E ≤ n && n ≤ 0x1F) || n == 0x7F ||
    (0xFDD0 ≤ n && n ≤ 0xFDEF) || 0xFFFE ≤ n % 0x10000

/-- What a numeric reference in an attribute value stands for. -/
def valueNumber (n : Nat) : List Char :=
  match numbered? n with
  | none => [replacement]
  | some c => if isDropped n then [] else [c]

/-- What a name with a semicolon, or a short name without one, stands for. -/
def valueName? (name : List Char) : Option (List Char) :=
  if name.getLast? = some ';' then Entity.lookup name.dropLast
  else if Entity.isShort name then Entity.lookup name
  else none

/-- The longest beginning of `name` that stands for something, of at most
`length` characters and at least two, replaced by what it stands for. -/
def valueNameFrom (name : List Char) : (length : Nat) → Option (List Char)
  | 0 => none
  | length + 1 =>
    if length = 0 then none
    else
      match valueName? (name.take (length + 1)) with
      | some s => some (s ++ name.drop (length + 1))
      | none => valueNameFrom name length

/-- The digits of a numeric reference and an optional semicolon: the value and
the length. -/
def numberAfter (isDigit : Char → Bool) (value : List Char → Nat) (cs : List Char) :
    Option (Nat × Nat) :=
  let ds := cs.takeWhile isDigit
  if ds.isEmpty then none
  else some (value ds, ds.length + if (cs.drop ds.length).head? = some ';' then 1 else 0)

/-- A character that can be part of a name in an attribute value. -/
def isValueNameChar (c : Char) : Bool :=
  !(c == '\t' || c == '\n' || c == '\x0c' || c == ' ' || c == '<' || c == '&' || c == '#' ||
    c == ';')

/-- The name of a reference with its optional semicolon, of at most 32 characters
without it. -/
def nameAfter (cs : List Char) : List Char :=
  let name := (cs.take 32).takeWhile isValueNameChar
  if name.isEmpty then []
  else if (cs.drop name.length).head? = some ';' then name ++ [';'] else name

/-- A reference in an attribute value, from after its ampersand on: what it
stands for and its length. -/
def valueReference? (cs : List Char) : Option (List Char × Nat) :=
  match cs with
  | '#' :: rest =>
    let hexadecimal :=
      match rest with
      | x :: tail =>
        if x = 'x' ∨ x = 'X' then
          (numberAfter Text.isHexDigit hexValue tail).map fun (n, k) => (n, k + 2)
        else none
      | [] => none
    let decimal := (numberAfter Char.isDigit decimalValue rest).map fun (n, k) => (n, k + 1)
    (decimal.or hexadecimal).map fun (n, k) => (valueNumber n, k)
  | _ =>
    let name := nameAfter cs
    if name.isEmpty then none
    else
      some (((valueName? name).or (valueNameFrom name (name.length - 1))).getD ('&' :: name),
        name.length)

/-- The number of digits of the first decimal reference in an attribute value
that has more of them than can be read. -/
def overlongReference? : List Char → Option Nat
  | [] => none
  | c :: rest =>
    let digits := decimalDigits (c :: rest)
    if Text.digitLimit < digits then some digits else overlongReference? rest

/-- The value of an attribute with every reference resolved. -/
def unescape (cs : List Char) : List Char :=
  match cs with
  | [] => []
  | c :: rest =>
    if c = '&' then
      match valueReference? rest with
      | some (s, length) => s ++ unescape (rest.drop length)
      | none => c :: unescape rest
    else c :: unescape rest
termination_by cs.length
decreasing_by all_goals (simp only [List.length_cons, List.length_drop]; omega)

end PageLandmarks.Markup

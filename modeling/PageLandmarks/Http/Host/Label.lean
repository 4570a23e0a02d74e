import PageLandmarks.Text.Composed
import PageLandmarks.Text.Direction
import PageLandmarks.Text.Joining
import PageLandmarks.Text.Permitted
import PageLandmarks.Text.Quoted
import PageLandmarks.Text.Script

/-!
# PageLandmarks.Http.Host.Label

**The labels of a host name**, as code points. A label is in composed form, its
hyphens do not stand in certain places, it begins with no mark, all its characters
are permitted where they stand, and those of a label with letters from right to left
do not mix with the wrong others. `Label.check` goes through these rules in this
order and tells the first that is broken.
-/

namespace PageLandmarks.Http.Host

/-- Which rule a label breaks. Positions count from 1. -/
inductive LabelError
  | empty
  | tooLong
  | notComposed
  | hyphenPair
  | hyphenAtEnd
  | markFirst
  /-- A code point that no label can hold. -/
  | notPermitted (label : List Nat) (point position : Nat)
  /-- A joiner that does not stand between the right letters. -/
  | joinerOutOfPlace (label : List Nat) (point position : Nat)
  /-- A sign that stands in the wrong word. -/
  | outOfPlace (label : List Nat) (point position : Nat)
  | unknownDirection (label : List Nat) (position : Nat)
  | undirectedFirst (label : List Nat)
  | wrongDirection (position : Nat) (rightToLeft : Bool)
  | mixedNumerals
  | undirectedEnd
  /-- Nothing follows the mark of an encoded label. -/
  | noContent
  /-- An encoded label ends with a hyphen. -/
  | hyphenAfterContent
  /-- An encoded label stands for nothing. -/
  | undecodable
  deriving Repr, DecidableEq

/-- How a message shows a code point: at least four capital hexadecimal digits. -/
def pointName (n : Nat) : String :=
  let digits := (Nat.toDigits 16 n).map Char.toUpper
  "U+" ++ .ofList (List.replicate (4 - digits.length) '0' ++ digits)

/-- The wording of a label error. -/
def LabelError.message : LabelError → String
  | empty => "Empty Label"
  | tooLong => "Label too long"
  | notComposed => "Label must be in Normalization Form C"
  | hyphenPair => "Label has disallowed hyphens in 3rd and 4th position"
  | hyphenAtEnd => "Label must not start or end with a hyphen"
  | markFirst => "Label begins with an illegal combining character"
  | notPermitted label point position =>
    "Codepoint " ++ pointName point ++ " at position " ++ toString position ++ " of " ++
      Text.quotedPoints label ++ " not allowed"
  | joinerOutOfPlace label point position =>
    "Unknown codepoint adjacent to joiner " ++ pointName point ++ " at position " ++
      toString position ++ " in " ++ Text.quotedPoints label
  | outOfPlace label point position =>
    "Codepoint " ++ pointName point ++ " not allowed at position " ++ toString position ++
      " in " ++ Text.quotedPoints label
  | unknownDirection label position =>
    "Unknown directionality in label " ++ Text.quotedPoints label ++ " at position " ++
      toString position
  | undirectedFirst label =>
    "First codepoint in label " ++ Text.quotedPoints label ++ " must be directionality L, R or AL"
  | wrongDirection position rightToLeft =>
    "Invalid direction for codepoint at position " ++ toString position ++ " in a " ++
      (if rightToLeft then "right-to-left" else "left-to-right") ++ " label"
  | mixedNumerals => "Can not mix numeral types in a right-to-left label"
  | undirectedEnd => "Label ends with illegal codepoint directionality"
  | noContent => "Malformed A-label, no Punycode eligible content found"
  | hyphenAfterContent => "A-label must not end with a hyphen"
  | undecodable => "Invalid A-label"

namespace Label

/-! ### Characters in their places -/

/-- The signs that join letters or keep them apart. -/
def isJoiner (n : Nat) : Bool := n == 0x200C || n == 0x200D

/-- The class of the marks after which a joiner can stand. -/
def viramaClass : Nat := 9

/-- The next letter that is not passed over joins in one of these ways. -/
def meets (ways : List Text.Joining) (points : List Nat) : Bool :=
  match points.find? fun n => Text.joiningOf? n != some .transparent with
  | some n => ways.any fun w => Text.joiningOf? n == some w
  | none => false

/-- A joiner may stand between what comes before it, the nearest first, and what
follows. -/
def allowsJoiner (joiner : Nat) (before after : List Nat) : Bool :=
  before.head?.any (fun n => Text.combiningClass n == viramaClass) ||
    (joiner == 0x200C && meets [.left, .dual] before && meets [.right, .dual] after)

/-- The two kinds of Arabic digits, as inclusive ranges. -/
def arabicDigits : List (Nat × Nat) := [(0x660, 0x669), (0x6F0, 0x6F9)]

/-- A sign that can stand in certain words only. -/
def isSign (n : Nat) : Bool :=
  [0xB7, 0x375, 0x5F3, 0x5F4, 0x30FB].contains n ||
    arabicDigits.any fun r => r.1 ≤ n && n ≤ r.2

/-- A sign may stand in a label between what comes before it, the nearest first, and
what follows. -/
def allowsSign (label : List Nat) (n : Nat) (before after : List Nat) : Bool :=
  if n = 0xB7 then before.head? == some 0x6C && after.head? == some 0x6C
  else if n = 0x375 then after.head?.any Text.Script.greek.has
  else if n = 0x5F3 ∨ n = 0x5F4 then before.head?.any Text.Script.hebrew.has
  else if n = 0x30FB then
    label.any fun m =>
      m != 0x30FB && [Text.Script.hiragana, .katakana, .han].any fun s => s.has m
  else
    !arabicDigits.any fun r =>
      !(r.1 ≤ n && n ≤ r.2) && label.any fun m => r.1 ≤ m && m ≤ r.2

/-- Check the code points of a label one after another, after those before them,
the nearest first. -/
def checkPoints (label before : List Nat) : List Nat → Except LabelError Unit
  | [] => .ok ()
  | n :: after =>
    let position := before.length + 1
    if Text.isPermitted n then checkPoints label (n :: before) after
    else if isJoiner n then
      if allowsJoiner n before after then checkPoints label (n :: before) after
      else .error (.joinerOutOfPlace label n position)
    else if isSign n then
      if allowsSign label n before after then checkPoints label (n :: before) after
      else .error (.outOfPlace label n position)
    else .error (.notPermitted label n position)

/-! ### Directions -/

/-- A direction is allowed in a label of one direction. -/
def allowsDirection (rightToLeft : Bool) (d : Text.Direction) : Bool :=
  if rightToLeft then d != .left else !d.isRightToLeft

/-- A direction can end a label of one direction. -/
def endsLabel (rightToLeft : Bool) (d : Text.Direction) : Bool :=
  d == .number || (if rightToLeft then d.isRightToLeft else d == .left)

/-- Check directions one after another, the first of them at a position, after a
digit of one kind if there was one. -/
def checkDirections (rightToLeft : Bool) (position : Nat) (numeral : Option Text.Direction) :
    List Text.Direction → Except LabelError Unit
  | [] => .ok ()
  | d :: rest =>
    if !allowsDirection rightToLeft d then .error (.wrongDirection position rightToLeft)
    else if rightToLeft && d.isNumeral && numeral.any (· != d) then .error .mixedNumerals
    else
      checkDirections rightToLeft (position + 1)
        (if rightToLeft && d.isNumeral then some d else numeral) rest

/-- Check the directions of a label. They matter only if some letter goes from
right to left. -/
def checkDirection (label : List Nat) : Except LabelError Unit := do
  let directions := label.map Text.directionOf
  match directions.findIdx? (· == .unknown) with
  | some index => throw (.unknownDirection label (index + 1))
  | none => pure ()
  if directions.any Text.Direction.isRightToLeft then
    let rightToLeft ← match directions.head? with
      | some .right | some .arabic => pure true
      | some .left => pure false
      | _ => throw (.undirectedFirst label)
    checkDirections rightToLeft 1 none directions
    if !(directions.reverse.find? (· != .mark)).any (endsLabel rightToLeft) then
      throw .undirectedEnd

/-! ### Labels -/

/-- The greatest length of a label before it is encoded. -/
def lengthLimit : Nat := 254

/-- Check a label by all rules. -/
def check (label : List Nat) : Except LabelError Unit := do
  if label.isEmpty then throw .empty
  if lengthLimit < label.length then throw .tooLong
  if !Text.isComposed label then throw .notComposed
  let hyphen : Nat := 0x2D
  if (label.drop 2).take 2 = [hyphen, hyphen] then throw .hyphenPair
  if label.head? = some hyphen ∨ label.getLast? = some hyphen then throw .hyphenAtEnd
  if label.head?.any Text.isMark then throw .markFirst
  checkPoints label [] label
  checkDirection label

end Label

end PageLandmarks.Http.Host

import PageLandmarks.Text.Blank
import PageLandmarks.Text.Digit

/-!
# PageLandmarks.Text.Numeral

**Whole numbers as people write them**: a sign, and digits that single
underscores may group. `ofArgument?` reads the digits of every script, up to
`digitLimit` of them. `ofSetting` reads ASCII digits only and accepts a fraction
of zeros; zeros in front do not count toward the limit, and it is generous about
what stands among them: any underscores, and a minus sign after the last. Only a
text that begins with too many digits outright is refused as too long.
-/

namespace PageLandmarks.Text

/-- The digits of a number without the underscores that group them: each stands
alone between two digits. -/
def ungrouped? (isDigit : Char → Bool) : List Char → Option (List Char)
  | [] => none
  | [c] => if isDigit c then some [c] else none
  | c :: '_' :: cs => if isDigit c then (ungrouped? isDigit cs).map (c :: ·) else none
  | c :: cs => if isDigit c then (ungrouped? isDigit cs).map (c :: ·) else none

/-- A number with an optional sign. -/
def signed? (magnitude? : List Char → Option Nat) : List Char → Option Int
  | '-' :: cs => (magnitude? cs).map fun n => -(n : Int)
  | '+' :: cs => (magnitude? cs).map fun n => (n : Int)
  | cs => (magnitude? cs).map fun n => (n : Int)

/-- A blank by the Unicode property `White_Space`. -/
def isWhiteSpace (c : Char) : Bool := isBlank c && !(0x1C ≤ c.toNat && c.toNat ≤ 0x1F)

/-- The text without the white space at its two ends. -/
def trim (cs : List Char) : List Char :=
  ((cs.dropWhile isWhiteSpace).reverse.dropWhile isWhiteSpace).reverse

/-! ### Arguments -/

/-- The number that digits of any script stand for, if there are not too many of
them. -/
def magnitude? (cs : List Char) : Option Nat := do
  let ds ← ungrouped? isDigit cs
  if ds.length ≤ digitLimit then some (ofDigits ds) else none

/-- The number that an argument of a command stands for, white space around it
apart. -/
def ofArgument? (s : String) : Option Int := signed? magnitude? (trim s.toList)

/-! ### Settings -/

/-- Why the text of a setting is not a number. -/
inductive NumeralFault
  /-- It is not written like one. -/
  | malformed
  /-- It has too many digits. -/
  | tooLong
  deriving Repr, DecidableEq

/-- The text without a point and the zeros after it, if it ends so. -/
def withoutFraction (cs : List Char) : List Char :=
  let fraction := (cs.dropWhile (· != '.')).drop 1
  if !fraction.isEmpty && fraction.all (· == '0') then cs.takeWhile (· != '.') else cs

/-- A digit other than zero, or a minus sign. -/
def startsNumber (c : Char) : Bool := c == '-' || (c.isDigit && c != '0')

/-- The text without zeros in front, and without the underscores among these.
Where nothing else is left, the last character is. -/
def withoutZeros? (cs : List Char) : Option (List Char) :=
  match cs with
  | [] => none
  | c :: _ =>
    let rest := if c = '0' then cs.dropWhile (fun c => c == '0' || c == '_') else cs
    match rest with
    | [] => some (cs.drop (cs.length - 1))
    | c :: _ => if startsNumber c then some rest else none

/-- The number that digits without zeros in front stand for, if there are not too
many of them. -/
def settingMagnitude? (cs : List Char) : Option Nat := do
  let ds ← ungrouped? Char.isDigit cs
  if (ds.head? = some '0' ∧ 1 < ds.length) ∨ digitLimit < ds.length then none
  else some (ofDigits ds)

/-- The number that a sign and digits without zeros in front stand for. -/
def settingNumber? (cs : List Char) : Option Int :=
  match cs with
  | '-' :: ds => (settingMagnitude? ds).map fun n => -(n : Int)
  | _ => (settingMagnitude? cs).map fun n => (n : Int)

/-- A sign, what stands for zeros, and a number. -/
def signedSetting? : List Char → Option (List Char)
  | '+' :: '-' :: _ => none
  | '+' :: cs => withoutZeros? cs
  | '-' :: cs => (withoutZeros? cs).map ('-' :: ·)
  | cs => withoutZeros? cs

/-- The text begins with too many digits, the first of them not a zero, or with a
minus sign before such digits. -/
def beginsTooLong (cs : List Char) : Bool :=
  let ds := (match cs with
    | '-' :: rest => rest
    | _ => cs).takeWhile Char.isDigit
  digitLimit < ds.length && ds.head? != some '0'

/-- The number that the text of a setting stands for, white space around it
apart. Too many digits are noticed before anything that is wrong further on. -/
def ofSetting (s : String) : Except NumeralFault Int :=
  if beginsTooLong s.toList then .error .tooLong
  else
    match (signedSetting? (withoutFraction (trim s.toList))).bind settingNumber? with
    | some n => .ok n
    | none => .error .malformed

end PageLandmarks.Text

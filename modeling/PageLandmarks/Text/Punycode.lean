/-!
# PageLandmarks.Text.Punycode

**A text in ASCII letters, digits and hyphens alone.** The ASCII characters of the
text come first, and a hyphen after them. The others follow in increasing order:
for each, how many places and characters it lies behind the one before, as a number
in base 36. How many digits such a number takes depends on the ones before it
(`adapted`), so that characters of one script take few.
-/

namespace PageLandmarks.Text.Punycode

/-! ### Numbers -/

/-- The base of the numbers. -/
def base : Nat := 36

/-- The bias before the first number. -/
def firstBias : Nat := 72

/-- The first code point that is not kept as it is. -/
def firstPoint : Nat := 0x80

/-- The digit at a place that is the last one of its number if it is below this:
at least 1 and at most 26. -/
def threshold (place bias : Nat) : Nat := max 1 (min 26 (base * (place + 1) - bias))

/-- The digits of a number are divided until it is small; every division adds to
the bias. -/
def scaled (delta bias : Nat) : Nat :=
  if 455 < delta then scaled (delta / 35) (bias + base)
  else bias + base * delta / (delta + 38)
termination_by delta
decreasing_by exact Nat.div_lt_self (by omega) (by omega)

/-- The bias after a number, when there are `count` characters. -/
def adapted (delta count : Nat) (first : Bool) : Nat :=
  let delta := if first then delta / 700 else delta / 2
  scaled (delta + delta / count) 0

/-! ### Reading -/

/-- The value of a digit: letters of either case, and then the ten digits. -/
def digitValue? (c : Char) : Option Nat :=
  if 'a' ≤ c ∧ c ≤ 'z' then some (c.toNat - 'a'.toNat)
  else if 'A' ≤ c ∧ c ≤ 'Z' then some (c.toNat - 'A'.toNat)
  else if '0' ≤ c ∧ c ≤ '9' then some (c.toNat - '0'.toNat + 26)
  else none

/-- A number and what follows it. A digit counts `weight` times. -/
def number? (bias : Nat) : (place weight : Nat) → List Char → Option (Nat × List Char)
  | _, _, [] => none
  | place, weight, c :: cs => do
    let digit ← digitValue? c
    if digit < threshold place bias then return (digit * weight, cs)
    let (n, rest) ← number? bias (place + 1) (weight * (base - threshold place bias)) cs
    return (digit * weight + n, rest)

/-- The text after `done`, whose last character taken in has this code point and
stands before this place. -/
def insertAll (done : List Nat) (point place bias : Nat) (first : Bool) (cs : List Char) :
    Option (List Nat) :=
  if cs.isEmpty then some done
  else
    match number? bias 0 1 cs with
    | none => none
    | some (delta, rest) =>
      let count := done.length + 1
      let point := point + (place + delta) / count
      let place := (place + delta) % count
      if 0x10FFFF < point then none
      else if rest.length < cs.length then
        insertAll (done.take place ++ point :: done.drop place) point (place + 1)
          (adapted delta count first) false rest
      else none
termination_by cs.length

/-- The code points of a text. The ASCII characters end at the last hyphen. -/
def decode? (cs : List Char) : Option (List Nat) :=
  let tail := (cs.reverse.takeWhile (· != '-')).reverse
  let basic := cs.take (cs.length - tail.length - 1)
  insertAll (basic.map Char.toNat) firstPoint 0 firstBias true tail

/-! ### Writing -/

/-- The digit of a value below 36. -/
def digit (n : Nat) : Char :=
  if n < 26 then Char.ofNat ('a'.toNat + n) else Char.ofNat ('0'.toNat + (n - 26))

/-- The digits of a number, from a place on. -/
def digits (bias place n : Nat) : List Char :=
  let t := threshold place bias
  if n < t then [digit n]
  else digit (t + (n - t) % (base - t)) :: digits bias (place + 1) ((n - t) / (base - t))
termination_by n
decreasing_by
  have h : 1 ≤ threshold place bias := Nat.le_max_left _ _
  exact Nat.lt_of_le_of_lt (Nat.div_le_self _ _) (by omega)

/-- A text that is being written. -/
structure Writing where
  /-- What is written. -/
  out : List Char
  /-- How far behind the last character written the next place lies. -/
  delta : Nat
  /-- The bias of the next number. -/
  bias : Nat
  /-- How many characters are written. -/
  count : Nat
  /-- No number is written yet. -/
  first : Bool

/-- Pass over a character of the text while those with this code point are
written. -/
def Writing.pass (point : Nat) (w : Writing) (n : Nat) : Writing :=
  if n < point then { w with delta := w.delta + 1 }
  else if n = point then
    ⟨w.out ++ digits w.bias 0 w.delta, 0, adapted w.delta (w.count + 1) w.first, w.count + 1,
      false⟩
  else w

/-- Write the characters with each of these code points in turn, all from `next`
on. -/
def Writing.write (text : List Nat) (w : Writing) (next : Nat) : List Nat → Writing
  | [] => w
  | point :: rest =>
    let before := { w with delta := w.delta + (point - next) * (w.count + 1) }
    let after := text.foldl (Writing.pass point) before
    Writing.write text { after with delta := after.delta + 1 } (point + 1) rest

/-- A text of these code points. -/
def encode (text : List Nat) : List Char :=
  let basic := text.filter (· < firstPoint)
  let others := ((text.filter (firstPoint ≤ ·)).mergeSort (· ≤ ·)).eraseDups
  let start := basic.map Char.ofNat ++ (if basic.isEmpty then [] else ['-'])
  (Writing.write text ⟨start, 0, firstBias, basic.length, true⟩ firstPoint others).out

end PageLandmarks.Text.Punycode

/-!
# PageLandmarks.Json.Decimal

**Numbers written with a fraction or an exponent.** A `Decimal` keeps the digits
as they were written. What it *means* is the nearest number with a 53-bit
significand (`Decimal.nearest?`), a tie going to the even one: the two can differ
only beyond fifteen digits. A number is shown with the fewest digits that mean the
same (`Decimal.shortest`).
-/

namespace PageLandmarks

/-- The number `± digits * 10 ^ exponent`. -/
structure Decimal where
  /-- A minus sign stands before the number, which may be zero. -/
  negative : Bool
  /-- The digits without the point. -/
  digits : Nat
  /-- The power of ten that the digits are multiplied by. -/
  exponent : Int
  deriving Repr, DecidableEq

namespace Decimal

/-- The decimal digits of a number. -/
def digitsOf (n : Nat) : List Char := (toString n).toList

/-- The place of the point: how many digits stand before it, or, below zero, how
many zeros stand between it and the first digit. -/
def point (d : Decimal) : Int := ((digitsOf d.digits).length : Int) + d.exponent

/-! ### The nearest number of 53 bits -/

/-- The quotient rounded to the nearest whole number, a half to the even one. -/
def roundHalfEven (num den : Nat) : Nat :=
  let q := num / den
  let r := num % den
  if 2 * r < den then q
  else if den < 2 * r then q + 1
  else if q % 2 = 0 then q else q + 1

/-- The greatest `l` with `2 ^ l ≤ num / den`, for positive numbers. -/
def floorLog2 (num den : Nat) : Int :=
  let l : Int := (num.log2 : Int) - (den.log2 : Int)
  if num * Nat.pow 2 (-l).toNat < den * Nat.pow 2 l.toNat then l - 1 else l

/-- The magnitude as a quotient of whole numbers. -/
def quotient (d : Decimal) : Nat × Nat :=
  (d.digits * Nat.pow 10 d.exponent.toNat, Nat.pow 10 (-d.exponent).toNat)

/-- The magnitude of the nearest number of 53 bits as a quotient, none if it is
out of range. One too small to be told from zero is zero. -/
def nearest? (d : Decimal) : Option (Nat × Nat) :=
  if d.digits = 0 ∨ d.point < -400 then some (0, 1)
  else if 400 < d.point then none
  else
    let (num, den) := d.quotient
    let scale := max (-1074) (floorLog2 num den - 52)
    let unit := Nat.pow 2 (-scale).toNat
    let significand := roundHalfEven (num * unit) (den * Nat.pow 2 scale.toNat)
    let magnitude := significand * Nat.pow 2 scale.toNat
    if Nat.pow 2 1024 ≤ magnitude / unit then none else some (magnitude, unit)

/-- The whole number that the nearest number of 53 bits is, if it is whole. A
number out of range is not. -/
def whole? (d : Decimal) : Option Int :=
  match d.nearest? with
  | none => none
  | some (magnitude, unit) =>
    if magnitude % unit ≠ 0 then none
    else some (if d.negative then -(magnitude / unit : Nat) else (magnitude / unit : Nat))

/-- The least whole number that is not below the nearest number of 53 bits. A
number out of range has none. -/
def ceiling? (d : Decimal) : Option Int :=
  d.nearest?.map fun (magnitude, unit) =>
    if d.negative then -(magnitude / unit : Nat)
    else ((magnitude + unit - 1) / unit : Nat)

/-! ### The fewest digits -/

/-- Two decimals mean the same magnitude. -/
def agree (d e : Decimal) : Bool :=
  match d.nearest?, e.nearest? with
  | some (m, u), some (n, v) => m * v == n * u
  | _, _ => false

/-- The two numbers of digits that, times the power of ten, come closest to the
magnitude `num / den` from below and from above: the closer one first, and of two
that are equally close the even one. -/
def neighbours (num den : Nat) (exponent : Int) : List Nat :=
  let n := num * Nat.pow 10 (-exponent).toNat
  let d := den * Nat.pow 10 exponent.toNat
  let below := n / d
  if 2 * (n % d) < d ∨ (2 * (n % d) = d ∧ below % 2 = 0) then [below, below + 1]
  else [below + 1, below]

/-- The first decimal of `width` digits, or of more up to `width + fuel`, that
means the same as `d`. -/
def shortestFrom (d : Decimal) (num den : Nat) : (fuel width : Nat) → Decimal
  | 0, _ => d
  | fuel + 1, width =>
    let exponent := d.point - width
    let candidates := (neighbours num den exponent).map fun n => (⟨d.negative, n, exponent⟩ : Decimal)
    match candidates.find? d.agree with
    | some e => e
    | none => shortestFrom d num den fuel (width + 1)

/-- The decimal with the fewest digits that means the same: 17 are always
enough. -/
def shortest (d : Decimal) : Decimal :=
  match d.nearest? with
  | none => d
  | some (0, _) => ⟨d.negative, 0, 0⟩
  | some (num, den) => shortestFrom d num den 17 1

/-! ### Text -/

/-- Positional digits: a point after the first `point` of them, zeros filled in
where the digits do not reach, and at least one digit on either side. -/
def positional (ds : List Char) (point : Int) : List Char :=
  if point ≤ 0 then "0.".toList ++ List.replicate (-point).toNat '0' ++ ds
  else
    let k := point.toNat
    ds.take k ++ List.replicate (k - ds.length) '0' ++ '.' ::
      (if ds.length ≤ k then ['0'] else ds.drop k)

/-- One digit, the others after a point, and an exponent of at least two
digits. -/
def scientific (ds : List Char) (exponent : Int) : List Char :=
  let power := digitsOf exponent.natAbs
  ds.take 1 ++ (if ds.length ≤ 1 then [] else '.' :: ds.drop 1) ++
    ['e', if exponent < 0 then '-' else '+'] ++
    (if power.length < 2 then '0' :: power else power)

/-- The number as it is shown: positional from 0.0001 up to 10^16, with an
exponent beyond, and without needless digits. -/
def display (written : Decimal) : String :=
  let d := written.shortest
  let all := digitsOf d.digits
  let ds := (all.reverse.dropWhile (· == '0')).reverse
  let body :=
    if d.digits = 0 then "0.0".toList
    else if -4 < d.point ∧ d.point ≤ 16 then positional ds d.point
    else scientific ds (d.point - 1)
  .ofList (if d.negative then '-' :: body else body)

end Decimal

end PageLandmarks

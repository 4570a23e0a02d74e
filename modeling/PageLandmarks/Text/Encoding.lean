import PageLandmarks.Text.Utf8

/-!
# PageLandmarks.Text.Encoding

**The encoding of a text that begins with an ASCII character**, told from its
octets: a character takes one, two or four of them, and where it takes more than
one the others are zero. The octets of a text in UTF-16 or UTF-32 are joined to
units in one of two orders.

Half of a surrogate pair is read as U+FFFD, since no text can hold it; a unit
beyond the last code point, and octets that do not make up a whole unit, cannot be
read.
-/

namespace PageLandmarks.Text

/-- The encodings. The two wide ones come with the most significant octet of a
unit first or last. -/
inductive Encoding
  | utf8
  | utf16 (mostSignificantFirst : Bool)
  | utf32 (mostSignificantFirst : Bool)
  deriving Repr, DecidableEq

namespace Encoding

/-- The encoding that the first octets of a text tell. -/
def detect (bytes : List UInt8) : Encoding :=
  match bytes with
  | a :: b :: c :: d :: _ =>
    if a = 0 then if b = 0 then utf32 true else utf16 true
    else if b = 0 then if c = 0 ∧ d = 0 then utf32 false else utf16 false
    else utf8
  | [a, b] => if a = 0 then utf16 true else if b = 0 then utf16 false else utf8
  | _ => utf8

/-- The number that octets make up. -/
def unitOf (mostSignificantFirst : Bool) (bytes : List UInt8) : Nat :=
  (if mostSignificantFirst then bytes else bytes.reverse).foldl (fun n b => 256 * n + b.toNat) 0

/-- The units of two octets. -/
def units16? (mostSignificantFirst : Bool) : List UInt8 → Option (List Nat)
  | [] => some []
  | a :: b :: rest =>
    (units16? mostSignificantFirst rest).map (unitOf mostSignificantFirst [a, b] :: ·)
  | _ => none

/-- The units of four octets. -/
def units32? (mostSignificantFirst : Bool) : List UInt8 → Option (List Nat)
  | [] => some []
  | a :: b :: c :: d :: rest =>
    (units32? mostSignificantFirst rest).map (unitOf mostSignificantFirst [a, b, c, d] :: ·)
  | _ => none

/-- The characters of UTF-16 units. -/
def ofUnits16 : List Nat → List Char
  | [] => []
  | n :: rest =>
    match rest with
    | m :: rest' =>
      if 0xD800 ≤ n ∧ n < 0xDC00 ∧ 0xDC00 ≤ m ∧ m < 0xE000 then
        Char.ofNat (0x10000 + (n - 0xD800) * 0x400 + (m - 0xDC00)) :: ofUnits16 rest'
      else (if n.isValidChar then Char.ofNat n else '\ufffd') :: ofUnits16 (m :: rest')
    | [] => [if n.isValidChar then Char.ofNat n else '\ufffd']

/-- The characters of UTF-32 units. -/
def ofUnits32? (units : List Nat) : Option (List Char) :=
  units.mapM fun n =>
    if 0x10FFFF < n then none else some (if n.isValidChar then Char.ofNat n else '\ufffd')

/-- The text that octets in an encoding stand for. -/
def decode? (bytes : List UInt8) : Encoding → Option (List Char)
  | utf8 =>
    match Utf8.decode bytes with
    | .ok cs => some cs
    | .error _ => none
  | utf16 mostSignificantFirst => (units16? mostSignificantFirst bytes).map ofUnits16
  | utf32 mostSignificantFirst => (units32? mostSignificantFirst bytes).bind ofUnits32?

end Encoding

end PageLandmarks.Text

import PageLandmarks.Text.Hex

/-!
# PageLandmarks.Text.Utf8

**Reading UTF-8.** `decode` turns octets into characters, or tells where the
first ill-formed sequence lies and what is wrong with it. The decoder is a state
machine over single octets: between two characters it expects a lead octet,
inside one it knows the range that the next octet must lie in. `encodeError?`
tells whether code points can be written at all: halves of surrogate pairs cannot.

`unifyNewlines` then makes every line end a line feed, as a text file is read.
-/

namespace PageLandmarks.Text.Utf8

/-- What is wrong with an ill-formed sequence. -/
inductive Fault
  /-- The octet cannot begin a character. -/
  | invalidStart
  /-- The octet after the sequence cannot continue it. -/
  | invalidContinuation
  /-- The text ends inside the sequence. -/
  | unexpectedEnd
  deriving Repr, DecidableEq

/-- The wording of a fault. -/
def Fault.message : Fault → String
  | invalidStart => "invalid start byte"
  | invalidContinuation => "invalid continuation byte"
  | unexpectedEnd => "unexpected end of data"

/-- The first ill-formed sequence of a text. -/
structure DecodeError where
  /-- The first octet of the sequence. -/
  lead : UInt8
  /-- Where the sequence begins. -/
  start : Nat
  /-- Where its last good octet lies. -/
  stop : Nat
  /-- What is wrong with it. -/
  fault : Fault
  deriving Repr, DecidableEq

/-- The wording of a decoding error: one octet is shown, of several only the
positions. -/
def DecodeError.message (e : DecodeError) : String :=
  "'utf-8' codec can't decode " ++
    (if e.start = e.stop then
      "byte 0x" ++ .ofList (hex 2 e.lead.toNat) ++ " in position " ++ toString e.start
    else
      "bytes in position " ++ toString e.start ++ "-" ++ toString e.stop) ++
    ": " ++ e.fault.message

/-- A sequence that has begun and is not complete. -/
structure Pending where
  /-- The lead octet. -/
  lead : UInt8
  /-- Where the lead octet lies. -/
  start : Nat
  /-- The bits read so far. -/
  bits : Nat
  /-- How many octets are still to come, less one. -/
  further : Nat
  /-- The least octet that may come next. -/
  low : UInt8 := 0x80
  /-- The greatest octet that may come next. -/
  high : UInt8 := 0xBF

/-- What a lead octet at position `pos` begins: a whole character, a sequence,
or nothing. The tighter ranges after E0, ED, F0 and F4 shut out overlong forms,
surrogates and numbers beyond U+10FFFF. -/
def leadOctet (pos : Nat) (b : UInt8) : Option (Char ⊕ Pending) :=
  let n := b.toNat
  if n < 0x80 then some (.inl (Char.ofNat n))
  else if n < 0xC2 then none
  else if n < 0xE0 then some (.inr ⟨b, pos, n % 0x20, 0, 0x80, 0xBF⟩)
  else if n < 0xF0 then
    some (.inr ⟨b, pos, n % 0x10, 1, if b = 0xE0 then 0xA0 else 0x80,
      if b = 0xED then 0x9F else 0xBF⟩)
  else if n < 0xF5 then
    some (.inr ⟨b, pos, n % 0x08, 2, if b = 0xF0 then 0x90 else 0x80,
      if b = 0xF4 then 0x8F else 0xBF⟩)
  else none

/-- Decode the octets from position `pos` on, inside the sequence `pending` if
there is one. -/
def decodeFrom (pos : Nat) (pending : Option Pending) :
    List UInt8 → Except DecodeError (List Char)
  | [] =>
    match pending with
    | none => .ok []
    | some p => .error ⟨p.lead, p.start, pos - 1, .unexpectedEnd⟩
  | b :: bs =>
    match pending with
    | none =>
      match leadOctet pos b with
      | none => .error ⟨b, pos, pos, .invalidStart⟩
      | some (.inl c) => (decodeFrom (pos + 1) none bs).map (c :: ·)
      | some (.inr p) => decodeFrom (pos + 1) (some p) bs
    | some p =>
      if p.low ≤ b ∧ b ≤ p.high then
        let bits := p.bits * 0x40 + b.toNat % 0x40
        match p.further with
        | 0 => (decodeFrom (pos + 1) none bs).map (Char.ofNat bits :: ·)
        | k + 1 => decodeFrom (pos + 1) (some ⟨p.lead, p.start, bits, k, 0x80, 0xBF⟩) bs
      else .error ⟨p.lead, p.start, pos - 1, .invalidContinuation⟩

/-- The characters that UTF-8 octets stand for. -/
def decode (bytes : List UInt8) : Except DecodeError (List Char) := decodeFrom 0 none bytes

/-! ### Writing -/

/-- The octets of a text in UTF-8. -/
def octets (s : String) : List UInt8 := s.toUTF8.data.toList

/-- The first run of code points that cannot be written. -/
structure EncodeError where
  /-- The first code point of the run. -/
  point : Nat
  /-- Where the run begins. -/
  start : Nat
  /-- How many code points it has. -/
  length : Nat
  deriving Repr, DecidableEq

/-- The wording of an encoding error: one code point is shown, of several only the
positions. -/
def EncodeError.message (e : EncodeError) : String :=
  "'utf-8' codec can't encode " ++
    (if e.length = 1 then
      "character '\\u" ++ .ofList (hex 4 e.point) ++ "' in position " ++ toString e.start
    else
      "characters in position " ++ toString e.start ++ "-" ++
        toString (e.start + e.length - 1)) ++
    ": surrogates not allowed"

/-- Half of a surrogate pair. -/
def isSurrogate (n : Nat) : Bool := 0xD800 ≤ n && n < 0xE000

/-- Why code points cannot be written, if they cannot. -/
def encodeError? (points : List Nat) : Option EncodeError :=
  let before := points.takeWhile fun n => !isSurrogate n
  match points.drop before.length with
  | [] => none
  | n :: rest => some ⟨n, before.length, 1 + (rest.takeWhile isSurrogate).length⟩

/-! ### Files -/

/-- A text without the byte order mark that it may begin with. -/
def withoutMark : List Char → List Char
  | '\ufeff' :: cs => cs
  | cs => cs

/-- Every line end as a line feed: a carriage return becomes one, together with
the line feed after it if there is one. -/
def unifyNewlines : List Char → List Char
  | [] => []
  | '\r' :: '\n' :: cs => '\n' :: unifyNewlines cs
  | c :: cs => (if c = '\r' then '\n' else c) :: unifyNewlines cs

/-- The text that a file with these octets holds. -/
def readText (bytes : List UInt8) : Except DecodeError String :=
  (decode bytes).map fun cs => .ofList (unifyNewlines cs)

end PageLandmarks.Text.Utf8

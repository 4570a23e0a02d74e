import PageLandmarks.Assoc
import PageLandmarks.Json.Basic
import PageLandmarks.Text.Digit

/-!
# PageLandmarks.Json.Parser

**Reading JSON.** `Json.parse` reads one value and the blanks around it, or tells
what is wrong and at which character. Of two fields with one name the later one
counts. A string can hold halves of surrogate pairs, which no text can. The words
for the numbers that are not finite are values.

Two bounds hold: a whole number has at most `Text.digitLimit` digits, and arrays
and objects stand at most `depthLimit` deep in one another.

Every reader returns what follows its construct. A place in the text is known by
how many characters are left from it on; `Json.parse` turns that into a position.
-/

namespace PageLandmarks.Json

/-- What can be wrong with a text that should be JSON. -/
inductive Fault
  | expectingValue
  | expectingName
  | expectingColon
  | expectingComma
  | extraData
  | unterminatedString
  | controlCharacter
  | badEscape
  | badUnicodeEscape
  deriving Repr, DecidableEq

/-- The wording of a fault. -/
def Fault.message : Fault → String
  | expectingValue => "Expecting value"
  | expectingName => "Expecting property name enclosed in double quotes"
  | expectingColon => "Expecting ':' delimiter"
  | expectingComma => "Expecting ',' delimiter"
  | extraData => "Extra data"
  | unterminatedString => "Unterminated string starting at"
  | controlCharacter => "Invalid control character at"
  | badEscape => "Invalid \\escape"
  | badUnicodeEscape => "Invalid \\uXXXX escape"

/-- Why a text cannot be read, at a place in it. -/
inductive Misread
  /-- The text is not JSON where this number of characters is left. -/
  | fault (fault : Fault) (left : Nat)
  /-- A number has too many digits, or a value stands too deep. -/
  | outOfBounds
  deriving Repr, DecidableEq

/-- Why a text cannot be read. -/
inductive ParseError
  /-- The text is not JSON after this number of characters. -/
  | fault (fault : Fault) (position : Nat)
  /-- A number has too many digits, or a value stands too deep. -/
  | outOfBounds
  deriving Repr, DecidableEq

/-- How deep arrays and objects can stand in one another. -/
def depthLimit : Nat := 965

/-- A reader's outcome. A reader of part of a text returns what it read and the
text that follows. -/
abbrev Scan := Except Misread

/-- A blank between the tokens of a JSON text. -/
def isSpace (c : Char) : Bool := c == ' ' || c == '\t' || c == '\n' || c == '\r'

/-- The text after its leading blanks. -/
def skipSpace (cs : List Char) : List Char := cs.dropWhile isSpace

/-! ### Strings -/

/-- The four hexadecimal digits after `\u`, which further text must follow. The
text begins after the `u`. -/
def hexQuad (cs : List Char) : Scan (Nat × List Char) :=
  match Text.ofHex? (cs.take 4) with
  | some n => if cs.length < 5 then .error (.fault .badUnicodeEscape (cs.length + 1))
    else .ok (n, cs.drop 4)
  | none => .error (.fault .badUnicodeEscape (cs.length + 1))

/-- The code point after `\u`. The two halves of a surrogate pair are one code
point. -/
def unicodeEscape (cs : List Char) : Scan (Nat × List Char) := do
  let (n, rest) ← hexQuad cs
  match rest with
  | '\\' :: 'u' :: tail =>
    if 0xD800 ≤ n ∧ n < 0xDC00 ∧ 5 ≤ tail.length then
      let (m, rest') ← hexQuad tail
      if 0xDC00 ≤ m ∧ m < 0xE000 then
        return (0x10000 + (n - 0xD800) * 0x400 + (m - 0xDC00), rest')
      else return (n, rest)
    else return (n, rest)
  | _ => return (n, rest)

/-- What a letter after a backslash stands for. -/
def letterEscape? (c : Char) : Option Char :=
  [('"', '"'), ('\\', '\\'), ('/', '/'), ('b', '\x08'), ('f', '\x0c'), ('n', '\n'),
    ('r', '\r'), ('t', '\t')].lookup c

/-- The code point that an escape stands for. The text begins after the
backslash. -/
def escape (cs : List Char) : Scan (Nat × List Char) :=
  match cs with
  | 'u' :: rest => unicodeEscape rest
  | c :: rest =>
    match letterEscape? c with
    | some d => .ok (d.toNat, rest)
    | none => .error (.fault .badEscape (cs.length + 1))
  | [] => .error (.fault .badEscape 1)

/-- The code points of the rest of a string whose opening quote stands where
`opening` characters are left. The fuel bounds the number of characters read. -/
def stringBody (opening : Nat) : (fuel : Nat) → List Char → Scan (List Nat × List Char)
  | 0, _ => .error (.fault .unterminatedString opening)
  | _ + 1, [] => .error (.fault .unterminatedString opening)
  | _ + 1, '"' :: rest => .ok ([], rest)
  | _ + 1, ['\\'] => .error (.fault .unterminatedString opening)
  | fuel + 1, '\\' :: cs => do
    let (n, rest) ← escape cs
    let (s, rest') ← stringBody opening fuel rest
    return (n :: s, rest')
  | fuel + 1, c :: rest =>
    if c.toNat < 0x20 then .error (.fault .controlCharacter (rest.length + 1))
    else do
      let (s, rest') ← stringBody opening fuel rest
      return (c.toNat :: s, rest')

/-- A string, from after its opening quote on. -/
def stringFrom (cs : List Char) : Scan (JsonString × List Char) := do
  let (points, rest) ← stringBody (cs.length + 1) (cs.length + 1) cs
  return (.ofPoints points, rest)

/-! ### Numbers -/

/-- The ASCII digits that the text begins with. -/
def digits (cs : List Char) : List Char := cs.takeWhile Char.isDigit

/-- The number that ASCII digits denote. -/
def ofDigits (ds : List Char) : Nat :=
  ds.foldl (fun n c => 10 * n + (c.toNat - '0'.toNat)) 0

/-- The digits before the point: a zero stands alone. -/
def wholePart (cs : List Char) : List Char :=
  match cs with
  | '0' :: _ => ['0']
  | _ => digits cs

/-- The digits after a point, if both are there. -/
def fractionPart (cs : List Char) : List Char :=
  match cs with
  | '.' :: rest => digits rest
  | _ => []

/-- The exponent and how long it is written, if one is there. -/
def exponentPart (cs : List Char) : Option (Int × Nat) :=
  match cs with
  | e :: rest =>
    if e = 'e' ∨ e = 'E' then
      let (sign, signs, tail) : Int × Nat × List Char :=
        match rest with
        | '-' :: tail => (-1, 1, tail)
        | '+' :: tail => (1, 1, tail)
        | _ => (1, 0, rest)
      let ds := digits tail
      if ds.isEmpty then none else some (sign * ofDigits ds, 1 + signs + ds.length)
    else none
  | [] => none

/-- A number, if the text begins with one. -/
def number (cs : List Char) : Scan (Json × List Char) :=
  let (negative, body) : Bool × List Char :=
    match cs with
    | '-' :: rest => (true, rest)
    | _ => (false, cs)
  let whole := wholePart body
  if whole.isEmpty then .error (.fault .expectingValue cs.length)
  else
    let rest := body.drop whole.length
    let fraction := fractionPart rest
    let rest := if fraction.isEmpty then rest else rest.drop (fraction.length + 1)
    match fraction, exponentPart rest with
    | [], none =>
      if Text.digitLimit < whole.length then .error .outOfBounds
      else
        let n : Int := ofDigits whole
        .ok (int (if negative then -n else n), rest)
    | fraction, exponent =>
      let (power, length) := exponent.getD (0, 0)
      .ok (ofDecimal ⟨negative, ofDigits (whole ++ fraction), power - fraction.length⟩,
        rest.drop length)

/-! ### Values -/

/-- The words that stand for a value. -/
def literal? (cs : List Char) : Option (Json × List Char) :=
  if "null".toList.isPrefixOf cs then some (null, cs.drop 4)
  else if "true".toList.isPrefixOf cs then some (bool true, cs.drop 4)
  else if "false".toList.isPrefixOf cs then some (bool false, cs.drop 5)
  else
    [NonFinite.infinity, .negativeInfinity, .nan].findSome? fun n =>
      if n.literal.toList.isPrefixOf cs then some (nonFinite n, cs.drop n.literal.length) else none

mutual

/-- A value that can hold values `depth` deep. The fuel bounds the depth of the
recursion. -/
def value (depth : Nat) : (fuel : Nat) → List Char → Scan (Json × List Char)
  | 0, cs => .error (.fault .expectingValue cs.length)
  | fuel + 1, cs =>
    match cs with
    | '"' :: rest => do
      let (s, rest') ← stringFrom rest
      return (string s, rest')
    | '[' :: rest =>
      if depth = 0 then .error .outOfBounds
      else
        match skipSpace rest with
        | ']' :: rest' => .ok (array [], rest')
        | cs' => do
          let (vs, rest') ← items (depth - 1) fuel cs'
          return (array vs, rest')
    | '{' :: rest =>
      if depth = 0 then .error .outOfBounds
      else
        match skipSpace rest with
        | '}' :: rest' => .ok (object [], rest')
        | cs' => do
          let (fs, rest') ← fields (depth - 1) fuel [] cs'
          return (object fs, rest')
    | _ =>
      match literal? cs with
      | some reading => .ok reading
      | none => number cs

/-- The items of an array, from the next one to the closing bracket. -/
def items (depth : Nat) : (fuel : Nat) → List Char → Scan (List Json × List Char)
  | 0, cs => .error (.fault .expectingValue cs.length)
  | fuel + 1, cs => do
    let (v, rest) ← value depth fuel cs
    match skipSpace rest with
    | ']' :: rest' => return ([v], rest')
    | ',' :: rest' => do
      let (vs, rest'') ← items depth fuel (skipSpace rest')
      return (v :: vs, rest'')
    | cs' => .error (.fault .expectingComma cs'.length)

/-- The fields of an object after `done`, from the next one to the closing
brace. -/
def fields (depth : Nat) : (fuel : Nat) → (done : List (JsonString × Json)) → List Char →
    Scan (List (JsonString × Json) × List Char)
  | 0, _, cs => .error (.fault .expectingName cs.length)
  | fuel + 1, done, cs =>
    match cs with
    | '"' :: rest => do
      let (name, rest') ← stringFrom rest
      match skipSpace rest' with
      | ':' :: tail => do
        let (v, rest'') ← value depth fuel (skipSpace tail)
        let done := Assoc.put done name v
        match skipSpace rest'' with
        | '}' :: after => return (done, after)
        | ',' :: after => fields depth fuel done (skipSpace after)
        | cs' => .error (.fault .expectingComma cs'.length)
      | cs' => .error (.fault .expectingColon cs'.length)
    | _ => .error (.fault .expectingName cs.length)

end

/-- One value with blanks around it and nothing after it. -/
def document (cs : List Char) : Scan Json := do
  let (v, rest) ← value depthLimit (2 * cs.length + 2) (skipSpace cs)
  match skipSpace rest with
  | [] => return v
  | cs' => .error (.fault .extraData cs'.length)

/-- A place in a text of `length` characters, known by its position. -/
def Misread.located (length : Nat) : Misread → ParseError
  | fault f left => .fault f (length - left)
  | outOfBounds => .outOfBounds

/-- The value that a JSON text stands for. -/
def parse (text : String) : Except ParseError Json :=
  (document text.toList).mapError (Misread.located text.length)

end PageLandmarks.Json

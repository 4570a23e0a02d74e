import PageLandmarks.Json.Basic

/-!
# PageLandmarks.Json.Printer

**Writing JSON** in two layouts. `Json.line` puts a value on one line and leaves
code points beyond ASCII as they are; `Json.compact` is the same as a text, where
what is no character is written as a `\u` escape. `Json.pretty` puts every item on
a line of its own, two blanks deeper than its container, and writes everything
beyond ASCII as `\u` escapes of its UTF-16 units.
-/

namespace PageLandmarks.Json

/-! ### Strings -/

/-- An escape by the number of a UTF-16 unit. -/
def unitEscape (n : Nat) : List Char := '\\' :: 'u' :: Text.hex 4 n

/-- The escapes of a character's UTF-16 units: one, or a surrogate pair. -/
def unitEscapes (c : Char) : List Char :=
  let n := c.toNat
  if n < 0x10000 then unitEscape n
  else unitEscape (0xD800 + (n - 0x10000) / 0x400) ++ unitEscape (0xDC00 + (n - 0x10000) % 0x400)

/-- One character of a string. Quote, backslash and control characters are
escaped, and in an ASCII text everything but the printable ASCII characters. -/
def stringChar (ascii : Bool) (c : Char) : List Char :=
  if c = '"' ∨ c = '\\' then ['\\', c]
  else if c = '\n' then ['\\', 'n']
  else if c = '\r' then ['\\', 'r']
  else if c = '\t' then ['\\', 't']
  else if c = '\x0c' then ['\\', 'f']
  else if c = '\x08' then ['\\', 'b']
  else if c.toNat < 0x20 ∨ (ascii ∧ 0x7F ≤ c.toNat) then unitEscapes c
  else [c]

/-- The code points of a text. -/
def pointsOf (s : String) : List Nat := s.toList.map Char.toNat

/-- The text of code points. What is no character is written as an escape. -/
def ofPoints (points : List Nat) : String :=
  .ofList (points.flatMap fun n => if n.isValidChar then [Char.ofNat n] else unitEscape n)

/-- One code point of a string. -/
def stringPoint (ascii : Bool) (n : Nat) : List Nat :=
  if n.isValidChar then (stringChar ascii (Char.ofNat n)).map Char.toNat else [n]

/-- The code points of a string in quotes. -/
def stringLine (ascii : Bool) (s : JsonString) : List Nat :=
  pointsOf "\"" ++ s.points.flatMap (stringPoint ascii) ++ pointsOf "\""

/-! ### One line -/

mutual

/-- The code points of the value on one line. -/
def line : Json → List Nat
  | null => pointsOf "null"
  | bool true => pointsOf "true"
  | bool false => pointsOf "false"
  | int n => pointsOf (toString n)
  | real d => pointsOf d.display
  | nonFinite n => pointsOf n.literal
  | string s => stringLine false s
  | array items => pointsOf "[" ++ (pointsOf ",").intercalate (lineItems items) ++ pointsOf "]"
  | object fields =>
    pointsOf "\x7b" ++ (pointsOf ",").intercalate (lineFields fields) ++ pointsOf "\x7d"

/-- The items of an array, each on one line. -/
def lineItems : List Json → List (List Nat)
  | [] => []
  | v :: vs => line v :: lineItems vs

/-- The fields of an object, each on one line. -/
def lineFields : List (JsonString × Json) → List (List Nat)
  | [] => []
  | (name, v) :: fs => (stringLine false name ++ pointsOf ":" ++ line v) :: lineFields fs

end

/-- The value on one line. -/
def compact (v : Json) : String := ofPoints v.line

/-! ### One line per item -/

/-- A new line at a depth of nesting. -/
def newline (depth : Nat) : String := "\n" ++ .ofList (List.replicate (2 * depth) ' ')

/-- Items between brackets, each on a line of its own; none leave the brackets
together. -/
def bracket (opening closing : String) (depth : Nat) (items : List String) : String :=
  if items.isEmpty then opening ++ closing
  else
    opening ++ newline (depth + 1) ++ ("," ++ newline (depth + 1)).intercalate items ++
      newline depth ++ closing

mutual

/-- The value over several lines, its own first line at a depth of nesting. -/
def prettyAt (depth : Nat) : Json → String
  | null => "null"
  | bool true => "true"
  | bool false => "false"
  | int n => toString n
  | real d => d.display
  | nonFinite n => n.literal
  | string s => ofPoints (stringLine true s)
  | array items => bracket "[" "]" depth (prettyItems (depth + 1) items)
  | object fields => bracket "\x7b" "\x7d" depth (prettyFields (depth + 1) fields)

/-- The items of an array, over several lines. -/
def prettyItems (depth : Nat) : List Json → List String
  | [] => []
  | v :: vs => prettyAt depth v :: prettyItems depth vs

/-- The fields of an object, over several lines. -/
def prettyFields (depth : Nat) : List (JsonString × Json) → List String
  | [] => []
  | (name, v) :: fs =>
    (ofPoints (stringLine true name) ++ ": " ++ prettyAt depth v) :: prettyFields depth fs

end

/-- The value over several lines. -/
def pretty (v : Json) : String := prettyAt 0 v

end PageLandmarks.Json

import PageLandmarks.Json.Basic
import PageLandmarks.Json.Parser
import PageLandmarks.Text.Numeral

/-!
# PageLandmarks.Coercion

**Values from outside as the values that a field takes.** The rules are lenient:
a text can stand for a number or a truth value, a truth value for a number, and a
number without a fraction for a whole number or a truth value, if 63 bits and a
sign can hold it. What cannot be taken is told with its kind, its place and the
value itself (`FieldError`).
-/

namespace PageLandmarks

/-- Why a value cannot be taken. -/
inductive FieldFault
  | missing
  | notObject
  | invalidJson (fault : Json.Fault)
  | notString
  | notText
  | emptyString
  | notInt
  | unreadableInt
  | fractionalInt
  | oversizedInt
  | notFinite
  | below (minimum : Int)
  | notBool
  | unreadableBool
  deriving Repr, DecidableEq

namespace FieldFault

/-- The kind of fault, as a word. -/
def kind : FieldFault → String
  | missing => "missing"
  | notObject => "model_attributes_type"
  | invalidJson _ => "json_invalid"
  | notString => "string_type"
  | notText => "string_unicode"
  | emptyString => "string_too_short"
  | notInt => "int_type"
  | unreadableInt => "int_parsing"
  | fractionalInt => "int_from_float"
  | oversizedInt => "int_parsing_size"
  | notFinite => "finite_number"
  | below _ => "greater_than_equal"
  | notBool => "bool_type"
  | unreadableBool => "bool_parsing"

/-- The wording of a fault. -/
def message : FieldFault → String
  | missing => "Field required"
  | notObject => "Input should be a valid dictionary or object to extract fields from"
  | invalidJson _ => "JSON decode error"
  | notString => "Input should be a valid string"
  | notText =>
    "Input should be a valid string, unable to parse raw data as a unicode string"
  | emptyString => "String should have at least 1 character"
  | notInt => "Input should be a valid integer"
  | unreadableInt => "Input should be a valid integer, unable to parse string as an integer"
  | fractionalInt =>
    "Input should be a valid integer, got a number with a fractional part"
  | oversizedInt => "Unable to parse input string as an integer, exceeded maximum size"
  | notFinite => "Input should be a finite number"
  | below minimum => "Input should be greater than or equal to " ++ toString minimum
  | notBool => "Input should be a valid boolean"
  | unreadableBool => "Input should be a valid boolean, unable to interpret input"

/-- The bound that was missed, or what exactly is wrong with a JSON text. -/
def context : FieldFault → Option Json
  | invalidJson fault => some (.object [("error", .string fault.message)])
  | emptyString => some (.object [("min_length", .int 1)])
  | below minimum => some (.object [("ge", .int minimum)])
  | _ => none

end FieldFault

/-- A value that cannot be taken. -/
structure FieldError where
  /-- Where the value stands: names of fields and positions in a text. -/
  location : List Json
  /-- What is wrong with it. -/
  fault : FieldFault
  /-- The value. -/
  input : Json

/-- The error as JSON, without the context of its fault. -/
def FieldError.toJson (e : FieldError) : Json :=
  .object [("type", .string e.fault.kind), ("loc", .array e.location),
    ("msg", .string e.fault.message), ("input", e.input)]

/-- The error as JSON, with the context of its fault if there is one. -/
def FieldError.toDetailedJson (e : FieldError) : Json :=
  match e.toJson, e.fault.context with
  | .object fields, some context => .object (fields ++ [(.text "ctx", context)])
  | v, _ => v

namespace Coercion

/-- A field that takes texts. -/
def string : Json → Except FieldFault String
  | .string (.text s) => .ok s
  | .string (.broken _) => .error .notText
  | _ => .error .notString

/-- A field that takes texts of at least one character. -/
def nonEmptyString (v : Json) : Except FieldFault String := do
  let s ← string v
  if s = "" then throw .emptyString else return s

/-- The bound on the magnitude of a number written with a fraction or an exponent
that stands for a whole number: 2 to the power of 63. -/
def wordBound : Int := 9223372036854775808

/-- A field that takes whole numbers. -/
def int : Json → Except FieldFault Int
  | .int n => .ok n
  | .bool b => .ok (if b then 1 else 0)
  | .real d =>
    match d.whole? with
    | some n => if -wordBound < n ∧ n < wordBound then .ok n else .error .oversizedInt
    | none => .error .fractionalInt
  | .nonFinite _ => .error .notFinite
  | .string (.text s) =>
    match Text.ofSetting s with
    | .ok n => .ok n
    | .error .malformed => .error .unreadableInt
    | .error .tooLong => .error .oversizedInt
  | .string (.broken _) => .error .notText
  | _ => .error .notInt

/-- A field that takes whole numbers from a minimum on. -/
def intFrom (minimum : Int) (v : Json) : Except FieldFault Int := do
  let n ← int v
  if n < minimum then throw (.below minimum) else return n

/-- The texts that stand for false. -/
def falseWords : List String := ["0", "off", "f", "false", "n", "no"]

/-- The texts that stand for true. -/
def trueWords : List String := ["1", "on", "t", "true", "y", "yes"]

/-- The truth value that a number stands for. -/
def boolOfInt (n : Int) : Except FieldFault Bool :=
  if n = 0 then .ok false else if n = 1 then .ok true else .error .unreadableBool

/-- A field that takes truth values. The case of a text does not matter. -/
def bool : Json → Except FieldFault Bool
  | .bool b => .ok b
  | .int n => if -wordBound ≤ n ∧ n < wordBound then boolOfInt n else .error .notBool
  | .real d =>
    match d.whole? with
    | some n => if -wordBound < n ∧ n < wordBound then boolOfInt n else .error .notBool
    | none => .error .notBool
  | .string (.text s) =>
    let word := String.ofList (s.toList.map Char.toLower)
    if falseWords.contains word then .ok false
    else if trueWords.contains word then .ok true
    else .error .unreadableBool
  | .string (.broken _) => .error .notText
  | _ => .error .notBool

/-- A field that can be absent or `null`. -/
def optional {α : Type} (coerce : Json → Except FieldFault α) :
    Option Json → Except FieldFault (Option α)
  | none | some .null => .ok none
  | some v => (coerce v).map some

end Coercion

end PageLandmarks

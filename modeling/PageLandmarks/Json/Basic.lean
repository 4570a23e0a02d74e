import PageLandmarks.Json.Decimal
import PageLandmarks.Json.String

/-!
# PageLandmarks.Json.Basic

**JSON values.** Whole numbers are of any size and kept apart from numbers with
a fraction or an exponent. The three numbers that are not finite are values too,
though a text that has to be understood everywhere cannot hold them
(`Json.isFinite`). The fields of an object keep their order.
-/

namespace PageLandmarks

/-- The numbers that are not finite. -/
inductive NonFinite
  | infinity
  | negativeInfinity
  | nan
  deriving Repr, DecidableEq

/-- The word for a number that is not finite in a JSON text. -/
def NonFinite.literal : NonFinite → String
  | infinity => "Infinity"
  | negativeInfinity => "-Infinity"
  | nan => "NaN"

/-- The word for a number that is not finite in a message. -/
def NonFinite.display : NonFinite → String
  | infinity => "inf"
  | negativeInfinity => "-inf"
  | nan => "nan"

/-- A JSON value. -/
inductive Json
  | null
  | bool (b : Bool)
  /-- A number written without fraction and exponent. -/
  | int (n : Int)
  /-- A number written with a fraction or an exponent. -/
  | real (d : Decimal)
  /-- A number that is not finite. -/
  | nonFinite (n : NonFinite)
  | string (s : JsonString)
  | array (items : List Json)
  | object (fields : List (JsonString × Json))
  deriving Repr

namespace Json

/-- The value of a field, if the value is an object that has it. -/
def field? (name : String) : Json → Option Json
  | object fields => fields.lookup (.text name)
  | _ => none

/-- The text that the value is. -/
def text? : Json → Option String
  | string s => s.text?
  | _ => none

/-- The value holds no others. -/
def isScalar : Json → Bool
  | array _ | object _ => false
  | _ => true

/-- The value counts as true where only its truth matters. -/
def isTruthy : Json → Bool
  | null => false
  | bool b => b
  | int n => n != 0
  | real d => d.whole? != some 0
  | nonFinite _ => true
  | string s => !s.points.isEmpty
  | array items => !items.isEmpty
  | object fields => !fields.isEmpty

/-- The absent text is `null`. -/
def ofString? : Option String → Json
  | some s => string s
  | none => null

/-- The absent number is `null`. -/
def ofInt? : Option Int → Json
  | some n => int n
  | none => null

/-- The number that was written: beyond the range of numbers it is infinite. -/
def ofDecimal (d : Decimal) : Json :=
  match d.nearest? with
  | some _ => real d
  | none => nonFinite (if d.negative then .negativeInfinity else .infinity)

/-! ### Finite values -/

mutual

/-- All numbers in the value are finite. -/
def isFinite : Json → Bool
  | nonFinite _ => false
  | array items => isFiniteItems items
  | object fields => isFiniteFields fields
  | _ => true

/-- All numbers in the items are finite. -/
def isFiniteItems : List Json → Bool
  | [] => true
  | v :: vs => isFinite v && isFiniteItems vs

/-- All numbers in the fields are finite. -/
def isFiniteFields : List (JsonString × Json) → Bool
  | [] => true
  | (_, v) :: fs => isFinite v && isFiniteFields fs

end

/-! ### How a message shows a value -/

/-- The name of a value's kind. -/
def kindName : Json → String
  | null => "NoneType"
  | bool _ => "bool"
  | int _ => "int"
  | real _ | nonFinite _ => "float"
  | string _ => "str"
  | array _ => "list"
  | object _ => "dict"

mutual

/-- The value as a message shows it, texts in quotes. -/
def display : Json → String
  | null => "None"
  | bool true => "True"
  | bool false => "False"
  | int n => toString n
  | real d => d.display
  | nonFinite n => n.display
  | string s => s.quoted
  | array items => "[" ++ ", ".intercalate (displayItems items) ++ "]"
  | object fields => "\x7b" ++ ", ".intercalate (displayFields fields) ++ "\x7d"

/-- The items of a list, each as a message shows it. -/
def displayItems : List Json → List String
  | [] => []
  | v :: vs => display v :: displayItems vs

/-- The fields of an object, each as a message shows it. -/
def displayFields : List (JsonString × Json) → List String
  | [] => []
  | (name, v) :: fs => (name.quoted ++ ": " ++ display v) :: displayFields fs

end

end Json

end PageLandmarks

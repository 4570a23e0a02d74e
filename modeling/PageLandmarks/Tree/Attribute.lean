import PageLandmarks.Text.Blank
import PageLandmarks.Text.Lowercase
import PageLandmarks.Text.Quoted

/-!
# PageLandmarks.Tree.Attribute

**The values of attributes.** Most are texts. The attributes in
`tokenListAttributes` hold a list of words. A `meta` element can declare the
encoding of the document in one of its attributes; such a value is kept as it
was written and serialized with the encoding that text has here.

`Attributes.arranged` gives the attributes of a new element their values.
-/

namespace PageLandmarks

/-- The value of an attribute. -/
inductive AttrValue
  | text (s : String)
  /-- A list of words. -/
  | tokens (words : List String)
  /-- A text that is the name of an encoding. -/
  | charset (s : String)
  /-- A text that can hold `charset=` and the name of an encoding. -/
  | contentType (s : String)
  deriving Repr, DecidableEq

/-- The value as one text, words joined by single spaces. -/
def AttrValue.plain : AttrValue → String
  | text s | charset s | contentType s => s
  | tokens ws => " ".intercalate ws

/-- The attributes of an element, in order. No name occurs twice. -/
abbrev Attributes := List (String × AttrValue)

/-! ### Lists of words -/

/-- The attributes that hold a list of words, by the elements that they do so
on. -/
def tokenListAttributes : List (String × List String) :=
  [("a", ["rel", "rev"]), ("link", ["rel", "rev"]), ("area", ["rel"]), ("td", ["headers"]),
    ("th", ["headers"]), ("form", ["accept-charset"]), ("object", ["archive"]),
    ("icon", ["sizes"]), ("iframe", ["sandbox"]), ("output", ["for"])]

/-- The attributes that hold a list of words on every element. -/
def commonTokenListAttributes : List String := ["class", "accesskey", "dropzone"]

/-- The attribute holds a list of words on an element of this name. -/
def holdsTokens (element name : String) : Bool :=
  commonTokenListAttributes.contains name ||
    ((tokenListAttributes.lookup (Text.lowercase element)).getD []).contains name

/-- A text as a list of words, on the attributes that hold one. -/
def AttrValue.split (element name : String) : AttrValue → AttrValue
  | text s =>
    if holdsTokens element name then tokens ((Text.words s.toList).map String.ofList) else text s
  | value => value

/-! ### Declared encodings -/

/-- A value marked as one that declares the encoding. A list becomes the text that
shows it. -/
def AttrValue.declaring (mark : String → AttrValue) : AttrValue → AttrValue
  | text s => mark s
  | tokens ws => mark (Text.quotedList ws)
  | value => value

/-- Mark the attribute `name` as one that declares the encoding. -/
def Attributes.declare (attrs : Attributes) (name : String) (mark : String → AttrValue) :
    Attributes :=
  attrs.map fun a => if a.1 == name then (a.1, a.2.declaring mark) else a

/-- The texts that a value consists of. -/
def AttrValue.texts : AttrValue → List String
  | tokens ws => ws
  | value => [value.plain]

/-- The attributes, of a `meta` element, stand for the `Content-Type` header. -/
def Attributes.areContentType (attrs : Attributes) : Bool :=
  (attrs.lookup "http-equiv").any fun v =>
    v.texts.any fun s => Text.lowercase s == "content-type"

/-- The attribute of an element that declares the encoding: `charset` of a `meta`
element, or else `content` if the element stands for the `Content-Type` header. -/
def Attributes.declaring? (element : String) (attrs : Attributes) :
    Option (String × (String → AttrValue)) :=
  if element ≠ "meta" then none
  else if (attrs.lookup "charset").isSome then some ("charset", .charset)
  else if attrs.areContentType then some ("content", .contentType)
  else none

/-- Mark what declares the encoding. -/
def Attributes.markEncoding (element : String) (attrs : Attributes) : Attributes :=
  match attrs.declaring? element with
  | some (name, mark) => attrs.declare name mark
  | none => attrs

/-- The attributes of an element cannot be taken: a content type that declares the
encoding is a list. -/
def Attributes.haveContentList (element : String) (attrs : Attributes) : Bool :=
  match attrs.declaring? element, attrs.lookup "content" with
  | some ("content", _), some (.tokens _) => true
  | _, _ => false

/-- The attributes of a new element. -/
def Attributes.arranged (element : String) (attrs : Attributes) : Attributes :=
  Attributes.markEncoding element (attrs.map fun a => (a.1, a.2.split element a.1))

end PageLandmarks

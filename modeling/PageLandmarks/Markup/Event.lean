import PageLandmarks.Text.Digit
import PageLandmarks.Text.Quoted

/-!
# PageLandmarks.Markup.Event

**What a markup text consists of**: an `Event` for each piece of text, tag,
comment or declaration, in the order of the text. Markup is read tolerantly, so
nearly every text has its events; the only texts refused are those with an
ill-formed marked section or with a number of too many digits (`Rejection`).
-/

namespace PageLandmarks.Markup

/-- One piece of a markup text. -/
inductive Event
  /-- Running text, its references resolved. -/
  | text (s : String)
  /-- A start tag on a line of the text. Its attributes stand in order, also the
  repeated ones; one without `=` has no value. A `closed` tag ends in `/>`. -/
  | startTag (name : String) (attrs : List (String × Option String)) (line : Nat) (closed : Bool)
  | endTag (name : String)
  | comment (s : String)
  /-- The text between `<?` and `>`. -/
  | instruction (s : String)
  /-- The text between `<!` and `>` of a document type declaration. -/
  | doctype (s : String)
  /-- The text between `<![` and the closing brackets of a marked section. -/
  | markedSection (s : String)
  deriving Repr, DecidableEq

/-- The elements whose content is text up to their end tag, whatever it looks
like. -/
inductive RawElement
  | script
  | style
  deriving Repr, DecidableEq

/-- The name of a raw element. -/
def RawElement.name : RawElement → String
  | script => "script"
  | style => "style"

/-- The raw element of a name. -/
def RawElement.named? (name : String) : Option RawElement :=
  if name = "script" then some script
  else if name = "style" then some style
  else none

/-- Why a text is refused. -/
inductive Rejection
  /-- No name follows `<![`; `context` is the text from there on. -/
  | expectedName (context : String)
  /-- The name after `<![` is none of those known. -/
  | unknownKeyword (keyword : String)
  /-- A reference has a number of more decimal digits than can be read. -/
  | numberTooLong (digits : Nat)
  deriving Repr, DecidableEq

/-- The wording of a rejection. -/
def Rejection.message : Rejection → String
  | expectedName context => "expected name token at " ++ Text.quoted context
  | unknownKeyword keyword =>
    "unknown status keyword " ++ Text.quoted keyword ++ " in marked section"
  | numberTooLong digits =>
    "Exceeds the limit (" ++ toString Text.digitLimit ++
      " digits) for integer string conversion: value has " ++ toString digits ++
      " digits; use sys.set_int_max_str_digits() to increase the limit"

/-- What a text that begins with `<` turns out to begin with. -/
inductive Construct
  /-- The text ends before the construct does. -/
  | unfinished
  /-- The events of the construct, its length, and the raw element whose content
  follows it, if one does. -/
  | finished (events : List Event) (length : Nat) (raw : Option RawElement)

end PageLandmarks.Markup

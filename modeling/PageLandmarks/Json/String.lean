import PageLandmarks.Text.Quoted

/-!
# PageLandmarks.Json.String

**The strings of JSON.** A JSON text can write half of a surrogate pair alone.
That is a code point and no character, so a string that holds one is no text: it
is kept as its code points, and what comes to read it has to say what it does
about that.
-/

namespace PageLandmarks

/-- A string of a JSON value. -/
inductive JsonString
  /-- A text. -/
  | text (s : String)
  /-- Code points that are no text, because halves of surrogate pairs are among
  them. -/
  | broken (points : List Nat)
  deriving Repr, DecidableEq

instance : Coe String JsonString := ⟨.text⟩

namespace JsonString

/-- The string with these code points. -/
def ofPoints (points : List Nat) : JsonString :=
  if points.all fun n => n.isValidChar then text (.ofList (points.map Char.ofNat))
  else broken points

/-- The code points of a string. -/
def points : JsonString → List Nat
  | text s => s.toList.map Char.toNat
  | broken points => points

/-- The text that a string is. -/
def text? : JsonString → Option String
  | text s => some s
  | broken _ => none

/-- The string in quotes, as a message shows it. -/
def quoted (s : JsonString) : String := Text.quotedPoints s.points

end JsonString

end PageLandmarks

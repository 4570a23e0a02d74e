import PageLandmarks.Markup.Event
import PageLandmarks.Markup.Pattern
import PageLandmarks.Markup.Reference
import PageLandmarks.Text.Lowercase

/-!
# PageLandmarks.Markup.Attribute

**The attributes of a start tag**, as they stand in the text. An attribute is a
name and perhaps `=` and a value; the value is in quotes, or bare and ends at a
blank or `>`. A quote that is never closed makes the reader fall back: to an empty
value if blanks stand before the quote, else to a bare value that begins with the
last of several `=`, else to no value at all.
-/

namespace PageLandmarks.Markup

open Text (isBlank blankRun)

/-- A character that an attribute can directly follow. -/
def endsSeparator (c : Char) : Bool := isBlank c || c == '/' || c == '\'' || c == '"'

/-- A character of an attribute's name after its first. -/
def isAttrNameChar (c : Char) : Bool := !(isBlank c || c == '/' || c == '=' || c == '>')

/-- The length of the blanks and slashes between attributes. The slash of `/>`
is not one of them. -/
def separators : List Char → Nat
  | '/' :: '>' :: _ => 0
  | c :: cs => if c == '/' || isBlank c then 1 + separators cs else 0
  | [] => 0

/-- A value without quotes. -/
def bareValue (cs : List Char) : List Char := cs.takeWhile fun c => !(c == '>' || isBlank c)

/-- A value and its length: in quotes if it begins with one, and then none if
the quote is not closed. -/
def quotedOrBare? (cs : List Char) : Option (List Char × Nat) :=
  match cs with
  | q :: rest =>
    if q = '\'' ∨ q = '"' then
      (rest.findIdx? (· == q)).map fun k => (rest.take k, k + 2)
    else some (bareValue cs, (bareValue cs).length)
  | [] => some ([], 0)

/-- The part of an attribute from the `=` on: its value and its length. -/
def valuePart? (cs : List Char) : Option (List Char × Nat) :=
  let before := blankRun cs
  let equals := ((cs.drop before).takeWhile (· == '=')).length
  let afterEquals := cs.drop (before + equals)
  let after := blankRun afterEquals
  if equals = 0 then none
  else
    match quotedOrBare? (afterEquals.drop after) with
    | some (value, length) => some (value, before + equals + after + length)
    | none =>
      if 0 < after then some ([], before + equals + (after - 1))
      else if 1 < equals then
        let value := '=' :: bareValue afterEquals
        some (value, before + (equals - 1) + value.length)
      else none

/-- An attribute at the beginning of the text, which the character `before`
precedes: its name, its value and the length up to what follows its
separators. -/
def attribute? (before : Char) (cs : List Char) :
    Option (List Char × Option (List Char) × Nat) :=
  match cs with
  | [] => none
  | c :: rest =>
    if !endsSeparator before || isBlank c || c == '/' || c == '>' then none
    else
      let name := c :: rest.takeWhile isAttrNameChar
      let (value, length) : Option (List Char) × Nat :=
        match valuePart? (cs.drop name.length) with
        | some (value, length) => (some value, name.length + length)
        | none => (none, name.length)
      some (name, value, length + separators (cs.drop length))

/-- A name and a value as an event shows them: the name in lower case, the
references in the value resolved. -/
def resolved (name : List Char) (value : Option (List Char)) : String × Option String :=
  (.ofList (Text.lower name), value.map fun v => .ofList (unescape v))

/-- The attributes as an event shows them, in order. -/
def resolveAll (attrs : List (List Char × Option (List Char))) :
    Except Rejection (List (String × Option String)) :=
  match attrs.findSome? fun a => a.2.bind overlongReference? with
  | some digits => .error (.numberTooLong digits)
  | none => .ok (attrs.map fun a => resolved a.1 a.2)

/-- The attributes at the beginning of the text, which the character `before`
precedes, as they stand there, and their length. -/
def attributes (before : Char) (cs : List Char) :
    List (List Char × Option (List Char)) × Nat :=
  match cs with
  | [] => ([], 0)
  | c :: rest =>
    match attribute? before (c :: rest) with
    | none => ([], 0)
    | some (name, value, length) =>
      let last := ((c :: rest.take (length - 1)).getLast?).getD c
      let (attrs, further) := attributes last (rest.drop (length - 1))
      ((name, value) :: attrs, length + further)
termination_by cs.length
decreasing_by simp only [List.length_cons, List.length_drop]; omega

end PageLandmarks.Markup

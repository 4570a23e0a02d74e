import PageLandmarks.Markup.Attribute

/-!
# PageLandmarks.Markup.Tag

**Start tags and end tags.** The two readers are given the text from the `<` on.
A start tag that neither ends nor could go on is running text up to where it
breaks off. Inside a raw element only its own end tag counts.
-/

namespace PageLandmarks.Markup

/-- The length of a start tag whose name and attributes are `inner` characters
long: with `>` or `/>` it is complete and with another character it breaks off,
unless the text ends or the character could still belong to an attribute. -/
def startTagEnd? (inner : Nat) (cs : List Char) : Option Nat :=
  match cs.drop inner with
  | [] => none
  | '>' :: _ => some (inner + 1)
  | '/' :: '>' :: _ => some (inner + 2)
  | c :: _ => if c == '/' || c == '=' || c.isAlpha then none else some inner

/-- A start tag, on a line of the text. -/
def startTag (line : Nat) (cs : List Char) : Except Rejection Construct :=
  let nameLength := (nameOf isTagNameChar (cs.drop 1)).getD 0
  let start := 1 + nameLength + separators (cs.drop (1 + nameLength))
  let (attrs, length) := attributes (((cs.take start).getLast?).getD '<') (cs.drop start)
  let inner := start + length
  match startTagEnd? inner cs with
  | none => .ok .unfinished
  | some stop =>
    let name := Text.lowercase (slice 1 (1 + nameLength) cs)
    (resolveAll attrs).map fun attrs =>
      if stop = inner then .finished [.text (slice 0 stop cs)] stop none
      else if stop = inner + 2 then .finished [.startTag name attrs line true] stop none
      else .finished [.startTag name attrs line false] stop (RawElement.named? name)

/-- The name in an end tag, from after its `</` and blanks on. -/
def endTagName (isNameChar : Char → Bool) (cs : List Char) : String :=
  Text.lowercase (.ofList (cs.take ((nameOf isNameChar cs).getD 0)))

/-- An end tag, in the content of a raw element if there is one. Without a name
it is a comment, and nothing at all if it is `</>`. -/
def endTag (raw : Option RawElement) (cs : List Char) : Construct :=
  match through '>' 1 cs with
  | none => .unfinished
  | some length =>
    let inner := cs.drop 2
    match plainEndTag cs, raw with
    | some _, none =>
      .finished [.endTag (endTagName isEndNameChar (Text.stripLeft inner))] length none
    | some _, some element =>
      let name := endTagName isEndNameChar (Text.stripLeft inner)
      if name = element.name then .finished [.endTag name] length none
      else .finished [.text (slice 0 length cs)] length raw
    | none, some _ => .finished [.text (slice 0 length cs)] length raw
    | none, none =>
      match nameOf isTagNameChar inner with
      | some _ => .finished [.endTag (endTagName isTagNameChar inner)] length none
      | none =>
        if length = 3 then .finished [] length none
        else .finished [.comment (slice 2 (length - 1) cs)] length none

end PageLandmarks.Markup

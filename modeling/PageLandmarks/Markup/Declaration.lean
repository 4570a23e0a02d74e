import PageLandmarks.Markup.Event
import PageLandmarks.Markup.Pattern
import PageLandmarks.Text.Lowercase

/-!
# PageLandmarks.Markup.Declaration

**Comments, instructions and declarations**: what begins with `<!` or `<?`. The
readers are given the text from the `<` on. A declaration that is neither a
document type nor a marked section is read as a comment.
-/

namespace PageLandmarks.Markup

/-- A construct that ends with the next `>` after its first `opening`
characters. Its event is made from the text after the first two. -/
def untilGt (event : String → Event) (opening : Nat) (cs : List Char) : Construct :=
  match through '>' opening cs with
  | none => .unfinished
  | some length => .finished [event (slice 2 (length - 1) cs)] length none

/-- A comment `<!-- … -->`. -/
def comment (cs : List Char) : Construct :=
  match search commentEnd (cs.drop 4) with
  | none => .unfinished
  | some (start, length) =>
    .finished [.comment (slice 4 (4 + start) cs)] (4 + start + length) none

/-- The closing brackets of a marked section with this keyword. -/
def sectionEnd? (keyword : String) : Option Pattern :=
  if ["temp", "cdata", "ignore", "include", "rcdata"].contains keyword then some doubleBracketEnd
  else if ["if", "else", "endif"].contains keyword then some bracketEnd
  else none

/-- A marked section `<![keyword … ]>` or `<![keyword … ]]>`. -/
def markedSection (cs : List Char) : Except Rejection Construct :=
  let inner := cs.drop 3
  match inner, seq (nameOf isKeywordChar) blanks inner with
  | [], _ => .ok .unfinished
  | _, none => .error (.expectedName (slice 0 20 cs))
  | _, some length =>
    if length = inner.length then .ok .unfinished
    else
      let keyword := inner.take length
      match sectionEnd? (.ofList (Text.lower (Text.strip keyword))) with
      | none => .error (.unknownKeyword (.ofList keyword))
      | some pattern =>
        match search pattern inner with
        | none => .ok .unfinished
        | some (start, length) =>
          .ok (.finished [.markedSection (slice 0 start inner)] (3 + start + length) none)

/-- A declaration `<! … >` that is not a comment. -/
def declaration (cs : List Char) : Except Rejection Construct :=
  if "<![".toList.isPrefixOf cs then markedSection cs
  else if Text.lower (cs.take 9) = "<!doctype".toList then .ok (untilGt .doctype 9 cs)
  else .ok (untilGt .comment 2 cs)

/-- An instruction `<? … >`. -/
def instruction (cs : List Char) : Construct := untilGt .instruction 2 cs

end PageLandmarks.Markup

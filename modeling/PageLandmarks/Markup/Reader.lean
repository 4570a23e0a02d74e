import PageLandmarks.Markup.Declaration
import PageLandmarks.Markup.Tag

/-!
# PageLandmarks.Markup.Reader

**Reading a markup text into events.** `readEvents` goes over the text in two
passes. The first pass stops where a construct is not complete, since more text
could follow; the second goes on from there in the knowledge that none does, and
what it cannot make sense of is running text. An open raw element has no end
tag then, and what is left of its content is dropped.

A pass is a sequence of steps, each of which takes a part of the text off its
front (`Step.length`). The line count grows by the line feeds in that part, so a
start tag is on the line of its `<`.
-/

namespace PageLandmarks.Markup

/-- What a pass does at one place of the text. -/
structure Step where
  /-- The events read there. -/
  events : List Event
  /-- How much of the text they take. -/
  length : Nat
  /-- The raw element whose content follows. -/
  raw : Option RawElement
  /-- The pass stops after this step. -/
  stops : Bool

/-- Stop the pass right here. -/
def Step.stop (raw : Option RawElement) : Step := ⟨[], 0, raw, true⟩

/-- Take the first `length` characters as running text. -/
def Step.text (length : Nat) (raw : Option RawElement) (cs : List Char) : Step :=
  ⟨[.text (slice 0 length cs)], length, raw, false⟩

/-! ### References -/

/-- What a complete reference stands for and its length. Its semicolon belongs
to it; any other character after it does not. -/
def withSemicolon (resolved : List Char) (length : Nat) (cs : List Char) : Step :=
  let length := if (cs.drop length).head? = some ';' then length + 1 else length
  ⟨[.text (.ofList resolved)], length, none, false⟩

/-- The digits of a numeric reference, from after its `&#` on, hexadecimal after
an `x`: the number and the length. -/
def digitsInText? (cs : List Char) : Option (Nat × Nat) :=
  match cs with
  | [] => none
  | x :: rest =>
    if x = 'x' ∨ x = 'X' then
      let ds := rest.takeWhile Text.isHexDigit
      if ds.isEmpty then none else some (hexValue ds, ds.length + 1)
    else
      let ds := cs.takeWhile Char.isDigit
      if ds.isEmpty then none else some (decimalValue ds, ds.length)

/-- The number of a numeric reference, from after its `&#` on, and its length.
Another character than a hexadecimal digit must follow. -/
def numberInText? (cs : List Char) : Option (Nat × Nat) := do
  let (n, length) ← digitsInText? cs
  let next ← (cs.drop length).head?
  if Text.isHexDigit next then none else some (n, length)

/-- A numeric reference. What looks like one and is not complete stops the pass;
its `&#` is running text if there is a semicolon further on. -/
def numberStep (cs : List Char) : Except Rejection Step :=
  match numberInText? (cs.drop 2) with
  | some (n, length) =>
    if Text.digitLimit < decimalDigits cs then .error (.numberTooLong (decimalDigits cs))
    else .ok (withSemicolon (textNumber n) (length + 2) cs)
  | none => .ok (if cs.contains ';' then ⟨[.text "&#"], 2, none, true⟩ else .stop none)

/-- The name of a reference, from after its `&` on. A character other than a
letter or a digit must follow: at the end of the text the name gives back what
stands from its last hyphen or full stop on. -/
def nameInText? (cs : List Char) : Option (List Char) :=
  let run := cs.takeWhile fun c => c.isAlphanum || c == '-' || c == '.'
  let name :=
    if run.length < cs.length then run
    else ((run.reverse.dropWhile Char.isAlphanum).drop 1).reverse
  match name with
  | c :: _ => if c.isAlpha then some name else none
  | [] => none

/-- A named reference. What looks like one and is not complete stops the pass;
two last characters lose their ampersand. -/
def nameStep (final : Bool) (cs : List Char) : Step :=
  match nameInText? (cs.drop 1), cs.drop 1 with
  | some name, _ => withSemicolon (textName name) (name.length + 1) cs
  | none, [] => .stop none
  | none, c :: rest =>
    if c.isAlpha then ⟨[], if final && rest.isEmpty then 1 else 0, none, true⟩
    else .text 1 none cs

/-! ### Constructs -/

/-- The construct that a `<` begins, on a line of the text. A `<` before a
character that begins none is running text. -/
def construct (raw : Option RawElement) (line : Nat) (cs : List Char) :
    Except Rejection Construct :=
  match cs.drop 1 with
  | [] => .ok .unfinished
  | c :: _ =>
    if c.isAlpha then startTag line cs
    else if c = '/' then .ok (endTag raw cs)
    else if "<!--".toList.isPrefixOf cs then .ok (comment cs)
    else if c = '?' then .ok (instruction cs)
    else if c = '!' then declaration cs
    else .ok (.finished [.text "<"] 1 none)

/-- How much of an unfinished construct is running text once no more text
follows: up to the next `>`, else up to the next `<`, else the `<` alone. -/
def unfinishedLength (cs : List Char) : Nat :=
  match through '>' 1 cs with
  | some length => length
  | none =>
    match through '<' 1 cs with
    | some length => length - 1
    | none => 1

/-- The step at a `<`. -/
def constructStep (final : Bool) (raw : Option RawElement) (line : Nat) (cs : List Char) :
    Except Rejection Step := do
  match ← construct raw line cs with
  | .finished events length raw => return ⟨events, length, raw, false⟩
  | .unfinished =>
    if final && 1 < cs.length then return .text (unfinishedLength cs) raw cs
    else return .stop raw

/-! ### Passes -/

/-- The next step. In the content of a raw element it is the running text up to
the end tag, or the end tag itself. -/
def step (final : Bool) (raw : Option RawElement) (line : Nat) (cs : List Char) :
    Except Rejection Step :=
  match raw with
  | some element =>
    match search (endTagOf element.name) cs with
    | none => .ok (.stop raw)
    | some (0, _) => constructStep final raw line cs
    | some (start, _) => .ok (.text start raw cs)
  | none =>
    match cs with
    | '<' :: _ => constructStep final raw line cs
    | '&' :: '#' :: _ => numberStep cs
    | '&' :: _ => .ok (nameStep final cs)
    | _ => .ok (.text (cs.takeWhile fun c => !(c == '&' || c == '<')).length raw cs)

/-- Where a pass has come to. -/
structure Progress where
  /-- The events read so far. -/
  events : List Event
  /-- The raw element whose content comes next. -/
  raw : Option RawElement
  /-- The line that the rest begins on. -/
  line : Nat
  /-- The text not read yet. -/
  rest : List Char

/-- The number of line feeds. -/
def newlines (cs : List Char) : Nat := cs.count '\n'

/-- One pass over the text, from a line on and inside a raw element if there is
one. -/
def pass (final : Bool) (raw : Option RawElement) (line : Nat) (cs : List Char) :
    Except Rejection Progress :=
  match cs with
  | [] => .ok ⟨[], raw, line, []⟩
  | c :: rest =>
    match step final raw line (c :: rest) with
    | .error e => .error e
    | .ok s =>
      let line := line + newlines ((c :: rest).take s.length)
      if s.stops then .ok ⟨s.events, s.raw, line, (c :: rest).drop s.length⟩
      else
        (pass final s.raw line (rest.drop (s.length - 1))).map fun p =>
          { p with events := s.events ++ p.events }
termination_by cs.length
decreasing_by simp only [List.length_cons, List.length_drop]; omega

/-- The running text that is left after both passes. -/
def remainder (p : Progress) : List Event :=
  if p.raw.isSome || p.rest.isEmpty then [] else [.text (.ofList p.rest)]

/-- The events of a markup text. -/
def readEvents (text : String) : Except Rejection (List Event) := do
  let first ← pass false none 1 text.toList
  let second ← pass true first.raw first.line first.rest
  return first.events ++ second.events ++ remainder second

end PageLandmarks.Markup

import PageLandmarks.Assoc
import PageLandmarks.Markup.Event
import PageLandmarks.Tree.Serialize

/-!
# PageLandmarks.Tree.Builder

**Building the tree from events.** The builder keeps the open elements as a
stack of frames. A start tag opens an element in the innermost one, an end tag
closes the innermost element of its name and all elements in it, and is ignored
if there is none. Nothing else closes an element: paragraphs nest in paragraphs.

Running text is gathered until something else comes and is then one node. A text
of nothing but spaces and line ends becomes a single line feed or space, unless
a `pre` or `textarea` element is open.

Elements are numbered as they are opened, so the numbers follow the reading
order of the tree.
-/

namespace PageLandmarks

open Markup (Event)

/-- An open element. -/
structure Frame where
  /-- What the element is. -/
  tag : Tag
  /-- Its child nodes so far, the last one first. -/
  content : List Node

/-- The tree as it is being built. -/
structure Builder where
  /-- The open elements, the innermost first. -/
  frames : List Frame := []
  /-- The children of the root so far, the last one first. -/
  top : List Node := []
  /-- The running text not yet in the tree, the last piece first. -/
  pieces : List String := []
  /-- The names of elements without content that an end tag may still come
  for. -/
  closedVoids : List String := []
  /-- The number of the next element. -/
  nextId : Nat := 0

namespace Builder

/-! ### Nodes -/

/-- Add a node to the innermost open element. -/
def addNode (b : Builder) (n : Node) : Builder :=
  match b.frames with
  | [] => { b with top := n :: b.top }
  | f :: fs => { b with frames := { f with content := n :: f.content } :: fs }

/-- Close the innermost open element. -/
def closeInnermost (b : Builder) : Builder :=
  match b.frames with
  | [] => b
  | f :: fs => { b with frames := fs }.addNode (.element f.tag f.content.reverse)

/-- Close a number of elements, from the innermost on. -/
def closeFrames : (count : Nat) → Builder → Builder
  | 0, b => b
  | count + 1, b => closeFrames count b.closeInnermost

/-- Close the innermost element of this name and all elements in it. -/
def closeNamed (b : Builder) (name : String) : Builder :=
  match b.frames.findIdx? (·.tag.name == name) with
  | some depth => closeFrames (depth + 1) b
  | none => b

/-! ### Running text -/

/-- A space or line end that a text of nothing else is shortened to one
character for. -/
def isFiller (c : Char) : Bool :=
  c == ' ' || c == '\n' || c == '\t' || c == '\x0c' || c == '\r'

/-- The text of a node: nothing but filler becomes a line feed or a space. -/
def condensed (s : String) : String :=
  if s.toList.all isFiller then (if s.toList.contains '\n' then "\n" else " ") else s

/-- An element that keeps its filler is open. -/
def keepsFiller (b : Builder) : Bool :=
  b.frames.any fun f => f.tag.name == "pre" || f.tag.name == "textarea"

/-- The kind of ordinary text in the open elements: that of the innermost one
that has a kind of its own. -/
def ordinaryKind (b : Builder) : TextKind :=
  (b.frames.findSome? fun f => TextKind.inside? f.tag.name).getD .ordinary

/-- Put the gathered text into the tree, as a node of this kind. -/
def flush (b : Builder) (kind : TextKind) : Builder :=
  if b.pieces.isEmpty then b
  else
    let text := String.join b.pieces.reverse
    let text := if b.keepsFiller then text else condensed text
    { b with pieces := [] }.addNode (.text kind text)

/-- Put the gathered running text into the tree. -/
def flushText (b : Builder) : Builder := b.flush b.ordinaryKind

/-- Add a node of text that is not running text. -/
def addText (b : Builder) (kind : TextKind) (s : String) : Builder :=
  { b.flushText with pieces := [s] }.flush kind

/-! ### Elements -/

/-- Open a new element. -/
def openElement (b : Builder) (name : String) (attrs : List (String × Option String))
    (line : Nat) : Builder :=
  let values := (Assoc.ofOccurrences attrs).map fun a => (a.1, AttrValue.text (a.2.getD ""))
  { b with
    frames := ⟨Tag.new (.numbered b.nextId) name values (some line), []⟩ :: b.frames
    nextId := b.nextId + 1 }

/-- The text of a marked section: CDATA or a declaration. -/
def addSection (b : Builder) (s : String) : Builder :=
  let opening := "CDATA[".toList
  if (s.toList.take opening.length).map Char.toUpper = opening then
    b.addText .cdata (.ofList (s.toList.drop opening.length))
  else b.addText .declaration s

/-- Take in an event. A start tag of an element without content closes it at
once, and an end tag that follows for it is ignored. A tag that ends itself closes
its own element, and the end tags that may still come for others stay to be
ignored. -/
def add (b : Builder) : Event → Builder
  | .text s => { b with pieces := s :: b.pieces }
  | .startTag name attrs line closed =>
    let opened := b.flushText.openElement name attrs line
    if closed then opened.closeNamed name
    else if isVoid name then
      { opened.closeNamed name with closedVoids := name :: b.closedVoids }
    else opened
  | .endTag name =>
    if b.closedVoids.contains name then { b with closedVoids := b.closedVoids.erase name }
    else b.flushText.closeNamed name
  | .comment s => b.addText .comment s
  | .instruction s => b.addText .instruction s
  | .doctype s => b.addText .doctype (.ofList (s.toList.drop "doctype ".length))
  | .markedSection s => b.addSection s

/-- Close everything that is still open. -/
def finish (b : Builder) : Builder :=
  let b := b.flushText
  closeFrames b.frames.length b

/-- The builder after all events of a text. -/
def ofEvents (events : List Event) : Builder := (events.foldl add {}).finish

end Builder

end PageLandmarks

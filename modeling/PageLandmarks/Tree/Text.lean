import PageLandmarks.Tree.Basic

/-!
# PageLandmarks.Tree.Text

**The text of an element**: the pieces of text below it that count as its own,
in reading order. A script, style sheet, template or ruby annotation counts only
the text of its own kind; every other element counts ordinary text and CDATA. So
the text of a script inside a paragraph is not part of the paragraph's text.
-/

namespace PageLandmarks

/-- The kinds of text that count as the text of an element of this name. -/
def countedKinds (name : String) : List TextKind :=
  match TextKind.inside? name with
  | some kind => [kind]
  | none => [.ordinary, .cdata]

mutual

/-- The pieces of text of these kinds, in reading order. -/
def Node.pieces (kinds : List TextKind) : Node → List String
  | .text kind content => if kinds.contains kind then [content] else []
  | .element _ children => Nodes.pieces kinds children

/-- The pieces of text of these kinds in a list of nodes. -/
def Nodes.pieces (kinds : List TextKind) : List Node → List String
  | [] => []
  | n :: ns => n.pieces kinds ++ Nodes.pieces kinds ns

end

/-- The text of an element. -/
def Element.text (e : Element) : String :=
  String.join (Nodes.pieces (countedKinds e.name) e.children)

/-- The text of an element without its blanks. -/
def Element.blankFreeText (e : Element) : String := .ofList (Text.squeeze e.text.toList)

end PageLandmarks

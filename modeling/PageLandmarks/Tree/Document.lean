import PageLandmarks.Assoc
import PageLandmarks.Markup.Reader
import PageLandmarks.Tree.Builder

/-!
# PageLandmarks.Tree.Document

**Documents and their edits.** A document is the tree under its root together
with the subtrees that have been taken out of it: an element taken out lives on
with its identity and can still be asked about and edited.

`Document.apply` carries out an `Edit`: append a new element, take one out, or set
an attribute. An edit of an element that the document does not have changes
nothing, and neither does one that is refused (`Edit.refusal?`).
-/

namespace PageLandmarks

/-- A document. -/
structure Document where
  /-- The root, which is no element of the text. -/
  root : Element
  /-- The subtrees that have been taken out, the latest first. -/
  detached : List Element
  /-- The number of the next element. -/
  nextId : Nat

namespace Document

/-- All trees of the document. -/
def trees (d : Document) : List Element := d.root :: d.detached

/-- The element with this identity. -/
def find? (d : Document) (id : ElementId) : Option Element :=
  d.trees.findSome? (Element.find? id)

/-- The elements under the root, in reading order. -/
def elements (d : Document) : List Element := Nodes.elements d.root.children

/-! ### Reading -/

/-- The document of a markup text. -/
def parse (text : String) : Except Markup.Rejection Document :=
  (Markup.readEvents text).map fun events =>
    let built := Builder.ofEvents events
    ⟨⟨Tag.root, built.top.reverse⟩, [], built.nextId⟩

end Document

/-! ### Changes to one element -/

mutual

/-- Change the element with this identity, wherever it is in the node. -/
def Node.modify (id : ElementId) (change : Element → Element) : Node → Node
  | .text kind content => .text kind content
  | .element tag children =>
    if tag.id = id then (change ⟨tag, children⟩).node
    else .element tag (Nodes.modify id change children)

/-- Change the element with this identity, wherever it is in the nodes. -/
def Nodes.modify (id : ElementId) (change : Element → Element) : List Node → List Node
  | [] => []
  | n :: ns => n.modify id change :: Nodes.modify id change ns

end

/-- Change the element with this identity, wherever it is in the tree. -/
def Element.modify (id : ElementId) (change : Element → Element) (e : Element) : Element :=
  if e.id = id then change e else { e with children := Nodes.modify id change e.children }

mutual

/-- Take the element with this identity out of the content of a node. -/
def Node.without (id : ElementId) : Node → Node
  | .text kind content => .text kind content
  | .element tag children => .element tag (Nodes.without id children)

/-- Take the element with this identity out of a list of nodes. -/
def Nodes.without (id : ElementId) : List Node → List Node
  | [] => []
  | .text kind content :: ns => .text kind content :: Nodes.without id ns
  | .element tag children :: ns =>
    if tag.id = id then Nodes.without id ns
    else Node.without id (.element tag children) :: Nodes.without id ns

end

/-- Take the element with this identity out of the content of an element. -/
def Element.without (id : ElementId) (e : Element) : Element :=
  { e with children := Nodes.without id e.children }

/-- Add a node at the end of an element's content. -/
def Element.push (e : Element) (n : Node) : Element := { e with children := e.children ++ [n] }

/-- Give an attribute of an element a value. -/
def Element.setAttr (name : String) (value : AttrValue) (e : Element) : Element :=
  { e with tag := { e.tag with attrs := Assoc.put e.tag.attrs name value } }

/-! ### Edits -/

/-- A change to a document. -/
inductive Edit
  /-- Append a new element to the children of `parent`, with a text in it if one
  is given. -/
  | append (parent : ElementId) (name : String) (attrs : Attributes) (text : Option String)
  /-- Take an element out of the tree that it is in. -/
  | extract (id : ElementId)
  /-- Give an attribute a value, exactly this one. -/
  | setAttr (id : ElementId) (name : String) (value : AttrValue)

/-- Why an edit is refused. -/
inductive EditError
  /-- A list is given where the encoding is declared in a text. -/
  | contentList
  deriving Repr, DecidableEq

/-- The wording of an edit error. -/
def EditError.message : EditError → String
  | contentList => "expected string or bytes-like object, got 'list'"

/-- Why an edit is refused, if it is. -/
def Edit.refusal? : Edit → Option EditError
  | append _ name attrs _ =>
    if Attributes.haveContentList name attrs then some .contentList else none
  | _ => none

namespace Document

/-- Change the element with this identity. -/
def modify (d : Document) (id : ElementId) (change : Element → Element) : Document :=
  { d with root := d.root.modify id change, detached := d.detached.map (Element.modify id change) }

/-- The element is the top of one of the document's trees. -/
def isTop (d : Document) (id : ElementId) : Bool := d.trees.any fun e => e.id == id

/-- Carry out an edit that is not refused. -/
def perform (d : Document) : Edit → Document
  | .append parent name attrs text =>
    match d.find? parent with
    | none => d
    | some _ =>
      let tag := Tag.new (.numbered d.nextId) name attrs none
      let content := match text with
        | some s => [Node.text .ordinary s]
        | none => []
      { d.modify parent (Element.push · (.element tag content)) with nextId := d.nextId + 1 }
  | .extract id =>
    if d.isTop id then d
    else
      match d.find? id with
      | none => d
      | some e =>
        { d with
          root := d.root.without id
          detached := e :: d.detached.map (Element.without id) }
  | .setAttr id name value => d.modify id (Element.setAttr name value)

/-- Carry out an edit. -/
def apply (d : Document) (e : Edit) : Document :=
  if e.refusal?.isSome then d else d.perform e

end Document

end PageLandmarks

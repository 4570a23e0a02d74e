import PageLandmarks.Tree.Attribute

/-!
# PageLandmarks.Tree.Basic

**The document tree.** A `Node` is a piece of text or an element; an `Element` is
the view of an element node as its tag and its child nodes. Elements are told
apart by their `ElementId`, never by what they look like: two elements with the
same tag and content are still two elements.

`Element.preorder` lists an element and all elements below it in reading order,
by recursion on the tree. Its length is the measure by which every walk over
elements ends.
-/

namespace PageLandmarks

/-- The identity of an element: the document's root, or the number of an element
in the order of creation. -/
inductive ElementId
  | root
  | numbered (n : Nat)
  deriving Repr, DecidableEq

/-- What an element is, apart from what it contains. -/
structure Tag where
  /-- The identity of the element. -/
  id : ElementId
  /-- The name of the element. -/
  name : String
  /-- The attributes of the element. -/
  attrs : Attributes
  /-- The line of the text that the start tag is on, if it is on one. -/
  line : Option Nat
  deriving Repr, DecidableEq

/-- The value of an attribute. -/
def Tag.attr? (tag : Tag) (name : String) : Option AttrValue := tag.attrs.lookup name

/-- The tag of a new element. -/
def Tag.new (id : ElementId) (name : String) (attrs : Attributes) (line : Option Nat) : Tag :=
  ⟨id, name, attrs.arranged name, line⟩

/-- The tag of a document's root. -/
def Tag.root : Tag := ⟨.root, "[document]", [], none⟩

/-- What a piece of text is. -/
inductive TextKind
  | ordinary
  | script
  | stylesheet
  | template
  /-- The annotation of a ruby text. -/
  | rubyText
  /-- The parenthesis around the annotation of a ruby text. -/
  | rubyParenthesis
  | cdata
  | comment
  | instruction
  | declaration
  | doctype
  deriving Repr, DecidableEq

/-- The kind of the text inside an element of this name, if it is a kind of its
own. -/
def TextKind.inside? (name : String) : Option TextKind :=
  [("script", script), ("style", stylesheet), ("template", template), ("rt", rubyText),
    ("rp", rubyParenthesis)].lookup name

/-- A node of the document tree. -/
inductive Node
  | text (kind : TextKind) (content : String)
  | element (tag : Tag) (children : List Node)
  deriving Repr

/-- An element: its tag and its child nodes. -/
structure Element where
  /-- What the element is. -/
  tag : Tag
  /-- The nodes directly in the element. -/
  children : List Node
  deriving Repr

/-- The element as a node. -/
def Element.node (e : Element) : Node := .element e.tag e.children

/-- The identity of the element. -/
def Element.id (e : Element) : ElementId := e.tag.id

/-- The name of the element. -/
def Element.name (e : Element) : String := e.tag.name

/-- The node as an element, if it is one. -/
def Node.element? : Node → Option Element
  | .text _ _ => none
  | .element tag children => some ⟨tag, children⟩

/-- The element nodes of a list. -/
def elementsOf (ns : List Node) : List Element := ns.filterMap Node.element?

/-- The elements directly in an element. -/
def Element.elementChildren (e : Element) : List Element := elementsOf e.children

/-! ### Reading order -/

mutual

/-- The elements of a node in reading order: the node itself, if it is an
element, before the elements in it. -/
def Node.elements : Node → List Element
  | .text _ _ => []
  | .element tag children => ⟨tag, children⟩ :: Nodes.elements children

/-- The elements of a list of nodes in reading order. -/
def Nodes.elements : List Node → List Element
  | [] => []
  | n :: ns => n.elements ++ Nodes.elements ns

end

/-- The element and all elements below it in reading order. -/
def Element.preorder (e : Element) : List Element := e :: Nodes.elements e.children

/-- The elements of several trees in reading order. -/
def preorders (es : List Element) : List Element := es.flatMap Element.preorder

/-- What the elements of a list of nodes are is decided by its element nodes. -/
theorem Nodes.elements_eq_preorders (ns : List Node) :
    Nodes.elements ns = preorders (elementsOf ns) := by
  induction ns with
  | nil => rfl
  | cons n ns ih =>
    cases n with
    | text kind content =>
      rw [Nodes.elements, Node.elements, List.nil_append, ih]; rfl
    | element tag children =>
      rw [Nodes.elements, Node.elements, ih]; rfl

/-- An element stands before the elements of its children. -/
theorem Element.preorder_eq (e : Element) : e.preorder = e :: preorders e.elementChildren := by
  rw [Element.preorder, Nodes.elements_eq_preorders]; rfl

@[simp] theorem preorders_nil : preorders [] = [] := rfl

@[simp] theorem preorders_cons (e : Element) (es : List Element) :
    preorders (e :: es) = e.preorder ++ preorders es := rfl

@[simp] theorem preorders_append (es fs : List Element) :
    preorders (es ++ fs) = preorders es ++ preorders fs := List.flatMap_append

/-- Putting an element's children in its place leaves one element fewer. -/
theorem length_preorders_children (e : Element) (es : List Element) :
    (preorders (e :: es)).length = (preorders (e.elementChildren ++ es)).length + 1 := by
  simp [e.preorder_eq]

/-! ### Search by identity -/

mutual

/-- The first element with this identity in a node. -/
def Node.find? (id : ElementId) : Node → Option Element
  | .text _ _ => none
  | .element tag children =>
    if tag.id = id then some ⟨tag, children⟩ else Nodes.find? id children

/-- The first element with this identity in a list of nodes. -/
def Nodes.find? (id : ElementId) : List Node → Option Element
  | [] => none
  | n :: ns =>
    match n.find? id with
    | some e => some e
    | none => Nodes.find? id ns

end

/-- The first element with this identity in the tree of an element. -/
def Element.find? (id : ElementId) (e : Element) : Option Element :=
  if e.id = id then some e else Nodes.find? id e.children

mutual

/-- The search in a node follows the reading order. -/
theorem Node.find?_eq (id : ElementId) (n : Node) :
    n.find? id = n.elements.find? fun e => e.id == id := by
  cases n with
  | text kind content => rfl
  | element tag children =>
    rw [Node.find?, Node.elements, List.find?_cons, Nodes.find?_eq id children]
    by_cases h : tag.id = id
    · simp [Element.id, h]
    · rw [if_neg h, beq_eq_false_iff_ne.mpr (show Element.id ⟨tag, children⟩ ≠ id from h)]

/-- The search in a list of nodes follows the reading order. -/
theorem Nodes.find?_eq (id : ElementId) (ns : List Node) :
    Nodes.find? id ns = (Nodes.elements ns).find? fun e => e.id == id := by
  cases ns with
  | nil => rfl
  | cons n ns =>
    rw [Nodes.find?, Nodes.elements, List.find?_append, Node.find?_eq id n, Nodes.find?_eq id ns]
    cases n.elements.find? fun e => e.id == id <;> rfl

end

/-- The search in a tree follows the reading order. -/
theorem Element.find?_eq (id : ElementId) (e : Element) :
    e.find? id = e.preorder.find? fun f => f.id == id := by
  rw [Element.find?, Element.preorder, List.find?_cons, Nodes.find?_eq]
  by_cases h : e.id = id
  · simp [h]
  · rw [if_neg h, beq_eq_false_iff_ne.mpr h]

end PageLandmarks

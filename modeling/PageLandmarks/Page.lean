import PageLandmarks.Landmark
import PageLandmarks.Tree.Document
import PageLandmarks.Tree.Text

/-!
# PageLandmarks.Page

**Pages**: a document together with what was settled when it was read, its body
and its marked landmarks. Later edits change the document and nothing else, so
the settled part names elements by their identity.
-/

namespace PageLandmarks

/-- A page. -/
structure Page where
  /-- The text that was read. -/
  html : String
  /-- The document as it is now. -/
  document : Document
  /-- The body: the `body` element, or `html`, or the root. -/
  body : ElementId
  /-- The elements marked as main content, in reading order. -/
  mains : List ElementId
  /-- The elements marked as navigation, in reading order. -/
  navigations : List ElementId

/-- Why a choice cannot be one of readers. -/
inductive ReaderFault
  /-- It is neither a text nor a list. -/
  | noLength (kind : String)
  /-- It is a list with an item that holds others. -/
  | unhashable (kind : String)
  /-- It is a list with an item that is no text, and no reader has another name in
  it. -/
  | notText (index : Nat) (kind : String)
  deriving Repr, DecidableEq

/-- The wording of a fault in the choice of a reader. -/
def ReaderFault.message : ReaderFault → String
  | noLength kind => "object of type '" ++ kind ++ "' has no len()"
  | unhashable kind => "unhashable type: '" ++ kind ++ "'"
  | notText index kind =>
    "sequence item " ++ toString index ++ ": expected str instance, " ++ kind ++ " found"

/-- The choice of a reader. -/
inductive ReaderChoice
  /-- Any reader will do. -/
  | any
  /-- A reader that goes by one of these names. -/
  | named (names : List String)
  /-- Something that names no reader. -/
  | unusable (fault : ReaderFault)
  deriving Repr, DecidableEq

/-- Why a page cannot be read. -/
inductive PageError
  /-- There is no reader of this name, or of any of the names in it. -/
  | unknownReader (name : String)
  /-- No reader can be chosen. -/
  | unusableReader (fault : ReaderFault)
  /-- The reader refuses the text. -/
  | rejected (rejection : Markup.Rejection)
  deriving Repr, DecidableEq

/-- The wording of a page error. -/
def PageError.message : PageError → String
  | unknownReader name =>
    "Couldn't find a tree builder with the features you requested: " ++ name ++
      ". Do you need to install a parser library?"
  | unusableReader fault => fault.message
  | rejected (.numberTooLong digits) => (Markup.Rejection.numberTooLong digits).message
  | rejected rejection =>
    "The markup you provided was rejected by the parser. Trying a different parser or a " ++
      "different encoding may help.\n\nOriginal exception(s) from parser:\n AssertionError: " ++
      rejection.message

namespace Page

/-- The names that the one reader goes by. -/
def readerNames : List String := ["html.parser", "html", "strict"]

/-! ### Reading -/

/-- The first element of this name in reading order. -/
def firstNamed? (d : Document) (name : String) : Option ElementId :=
  (d.elements.find? fun e => e.name == name).map Element.id

/-- The body of a document. -/
def bodyOf (d : Document) : ElementId :=
  ((firstNamed? d "body").or (firstNamed? d "html")).getD .root

/-- The elements marked as a landmark, in reading order. -/
def marked (d : Document) (landmark : Landmark) : List ElementId :=
  (d.elements.filter fun e => e.tag.marks landmark).map Element.id

/-- The page of a document that has just been read. -/
def ofDocument (html : String) (d : Document) : Page :=
  ⟨html, d, bodyOf d, marked d .main, marked d .navigation⟩

/-- A choice can be met by the one reader. -/
def checkReader : ReaderChoice → Except PageError Unit
  | .any => .ok ()
  | .named names =>
    if names.any readerNames.contains then .ok ()
    else .error (.unknownReader (",".intercalate names))
  | .unusable fault => .error (.unusableReader fault)

/-- Read a page with the reader of this choice. -/
def read (reader : ReaderChoice) (html : String) : Except PageError Page := do
  checkReader reader
  ((Document.parse html).map (ofDocument html)).mapError .rejected

/-- Edit the document of a page. -/
def edit (p : Page) (e : Edit) : Page := { p with document := p.document.apply e }

/-! ### Queries -/

/-- The element with this identity. -/
def find? (p : Page) (id : ElementId) : Option Element := p.document.find? id

/-- The element that is the body. -/
def bodyElement? (p : Page) : Option Element := p.find? p.body

/-- The elements directly in an element, none in no element. -/
def childrenOf (e : Option Element) : List Element := (e.map Element.elementChildren).getD []

/-- The elements directly in the body, without the head. -/
def bodyChildren (p : Page) : List Element :=
  (childrenOf p.bodyElement?).filter fun e => e.name != "head"

/-- The place of an element among the children of the body. -/
def siblingIndex? (p : Page) (id : Option ElementId) : Option Nat :=
  id.bind fun i => p.bodyChildren.findIdx? fun e => e.id == i

end Page

end PageLandmarks

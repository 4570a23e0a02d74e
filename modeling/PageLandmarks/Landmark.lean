import PageLandmarks.Text.Quoted
import PageLandmarks.Tree.Basic

/-!
# PageLandmarks.Landmark

**Landmarks and what elements are called.** A landmark is marked by a tag of its
own or by a word of the `role` attribute, in any case. `Tag.label` is the short
name of an element in reports: its tag, its identifier, its first two classes.
-/

namespace PageLandmarks

/-- The regions of a page that the audit looks for. -/
inductive Landmark
  | main
  | navigation
  deriving Repr, DecidableEq

/-- The tag that marks the landmark. -/
def Landmark.tagName : Landmark → String
  | main => "main"
  | navigation => "nav"

/-- The role that marks the landmark. -/
def Landmark.role : Landmark → String
  | main => "main"
  | navigation => "navigation"

/-- The words of a role, in lower case. -/
def roleWords (value : AttrValue) : List (List Char) :=
  Text.words (Text.lower value.plain.toList)

/-- The element is marked as this landmark. -/
def Tag.marks (tag : Tag) (landmark : Landmark) : Bool :=
  tag.name == landmark.tagName ||
    match tag.attr? "role" with
    | none => false
    | some value => (roleWords value).contains landmark.role.toList

/-- The element carries a link. An empty one counts. -/
def Tag.isHyperlink (tag : Tag) : Bool :=
  (tag.name == "a" || tag.name == "area") && (tag.attr? "href").isSome

/-- The element is a script. -/
def Tag.isScript (tag : Tag) : Bool := tag.name == "script"

/-! ### Labels -/

/-- The part of a label for the identifier: none if that is empty. -/
def idLabel : Option AttrValue → String
  | some (.tokens ws) => if ws.isEmpty then "" else "#" ++ Text.quotedList ws
  | some value => if value.plain = "" then "" else "#" ++ value.plain
  | none => ""

/-- The items of a class attribute: its words, or the characters of one that
was given as a single text. -/
def classItems : Option AttrValue → List String
  | some (.tokens ws) => ws
  | some value => value.plain.toList.map String.singleton
  | none => []

/-- The part of a label for the first two classes. -/
def classLabel (value : Option AttrValue) : String :=
  String.join (((classItems value).take 2).map ("." ++ ·))

/-- The short name of an element. -/
def Tag.label (tag : Tag) : String :=
  tag.name ++ idLabel (tag.attr? "id") ++ classLabel (tag.attr? "class")

end PageLandmarks

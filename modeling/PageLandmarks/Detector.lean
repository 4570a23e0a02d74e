import PageLandmarks.Log
import PageLandmarks.Order
import PageLandmarks.Page
import PageLandmarks.Queue
import PageLandmarks.Tree.Serialize

/-!
# PageLandmarks.Detector

**Finding the landmarks of a page and judging their order.** One marked element
is the landmark, of several none is, and without any the landmark is inferred:

* the main content is the body child with the longest markup, the earliest of
  equals (`longest?`);
* the navigation is the first element, level by level below the body, that has
  enough links directly in it and hardly any text outside them (`scan`).
-/

namespace PageLandmarks

/-- What looking for a landmark has come to. -/
inductive Detection
  /-- Several elements are marked. -/
  | ambiguous (candidates : Nat)
  /-- One element is marked. -/
  | explicit (id : ElementId)
  /-- No element is marked and this one is taken for the landmark. -/
  | inferred (e : Element)
  /-- There is no candidate. -/
  | absent

/-- The element found. -/
def Detection.id? : Detection → Option ElementId
  | explicit id => some id
  | inferred e => some e.id
  | ambiguous _ | absent => none

/-! ### Main content -/

/-- The length of an element's markup. -/
def Element.markupLength (e : Element) : Nat := e.outerHtml.length

/-- The earliest of the elements with the longest markup. -/
def longest? : List Element → Option Element
  | [] => none
  | e :: es =>
    match longest? es with
    | none => some e
    | some m => if e.markupLength < m.markupLength then some m else some e

/-! ### Navigation -/

/-- The links directly in an element. -/
def Element.links (e : Element) : List Element :=
  e.elementChildren.filter fun c => c.tag.isHyperlink

/-- The text of the links directly in an element, without blanks. -/
def Element.linkText (e : Element) : String := String.join (e.links.map Element.blankFreeText)

/-- The element has enough links directly in it, and its text is no longer than
theirs. -/
def Element.isLinkBlock (minLinks : Int) (e : Element) : Bool :=
  minLinks ≤ (e.links.length : Int) && e.blankFreeText.length ≤ e.linkText.length

/-- The first link block among the elements of the queue and those below them,
level by level. -/
def scan (minLinks : Int) (q : Queue Element) : Option Element :=
  match _h : q.pop? with
  | none => none
  | some (e, rest) =>
    if e.isLinkBlock minLinks then some e
    else scan minLinks (rest.pushAll e.elementChildren)
termination_by (preorders q.toList).length
decreasing_by
  have hq := Queue.toList_eq_cons_of_pop? _h
  rw [hq, length_preorders_children]
  simp only [Queue.toList_pushAll, preorders_append, List.length_append]
  omega

/-! ### Detectors -/

/-- A detector. -/
structure Detector where
  /-- The number of links that an inferred navigation has at least. -/
  minNavLinks : Int := 3
  deriving Repr, DecidableEq

namespace Detector

/-- Look for a landmark among the marked elements, and infer it if there are
none. -/
def detect (marked : List ElementId) (infer : Option Element) : Detection :=
  match marked with
  | [] =>
    match infer with
    | some e => .inferred e
    | none => .absent
  | [id] => .explicit id
  | _ => .ambiguous marked.length

/-- Look for the main content. -/
def main (p : Page) : Detection := detect p.mains (longest? p.bodyChildren)

/-- Look for the navigation. -/
def navigation (d : Detector) (p : Page) : Detection :=
  detect p.navigations
    (scan d.minNavLinks (.ofList (p.bodyChildren.filter fun e => !e.tag.isScript)))

/-- What is worth noting about a search for the main content. -/
def mainNotes : Detection → List Note
  | .ambiguous n => [.ambiguous .main n]
  | .inferred e => [.inferredMain e.tag.label]
  | .explicit _ | .absent => []

/-- What is worth noting about a search for the navigation. -/
def navigationNotes : Detection → List Note
  | .ambiguous n => [.ambiguous .navigation n]
  | .inferred e => [.inferredNavigation e.tag.label e.links.length]
  | .explicit _ | .absent => []

end Detector

/-! ### Order checks -/

namespace Page

/-- The navigation is reached before the main content in the body. -/
def navBeforeMain (p : Page) (main nav : Option ElementId) : Bool :=
  compareOrder p.bodyElement? nav main == .first

/-- The main content stands first among the children of the body, or second
beside a navigation. One that is no child of the body is accepted. -/
def mainFirst (p : Page) (main : Option ElementId) (navExists : Bool) : Bool :=
  match p.siblingIndex? main with
  | none => true
  | some index => index == 0 || (navExists && index ≤ 1)

end Page

end PageLandmarks

import PageLandmarks.Tree.Basic

/-!
# PageLandmarks.Order

**Which of two elements is reached first** on a walk through a tree in reading
order. The walk keeps a stack of the elements still to visit and stops at the
first of the two. `Element.preorder` is the same order by recursion.
-/

namespace PageLandmarks

/-- Which of two elements is reached first. -/
inductive Verdict
  | first
  | second
  /-- Neither is reached. -/
  | neither
  deriving Repr, DecidableEq

/-- Visit the elements on the stack, each before its children, up to the first
that is one of the two. -/
def walk (first second : Option ElementId) (stack : List Element) : Verdict :=
  match stack with
  | [] => .neither
  | e :: rest =>
    if first = some e.id then .first
    else if second = some e.id then .second
    else walk first second (e.elementChildren ++ rest)
termination_by (preorders stack).length
decreasing_by rw [length_preorders_children]; omega

/-- Which of two elements is reached first in the tree of `root`. An element that
is not given is never reached, and in no tree is any. -/
def compareOrder (root : Option Element) (first second : Option ElementId) : Verdict :=
  walk first second root.toList

end PageLandmarks

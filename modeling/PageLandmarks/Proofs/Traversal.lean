import Mathlib.Data.List.Flatten
import Mathlib.Data.List.Perm.Basic
import PageLandmarks.Proofs.Detection

/-!
# PageLandmarks.Proofs.Traversal

**What the scan goes through.** As long as it comes upon no link block, the scan takes the
elements of its queue one after another and puts the children of each at the end. The list
of these elements is `levelOrder`, and the scan is a search in it
(`scan_eq_find?_levelOrder`). It has the elements of the reading order, in another order
(`levelOrder_perm`), so where no identity occurs twice in the tree, the scan comes by no
element twice.
-/

namespace PageLandmarks

/-- The elements and all below them, level by level. -/
def levelOrder (es : List Element) : List Element :=
  match es with
  | [] => []
  | e :: rest => e :: levelOrder (rest ++ e.elementChildren)
termination_by (preorders es).length
decreasing_by
  rw [length_preorders_children, preorders_append, preorders_append, List.length_append,
    List.length_append]
  omega

/-- Level by level, the same elements come as in reading order. -/
theorem levelOrder_perm (es : List Element) : (levelOrder es).Perm (preorders es) := by
  fun_induction levelOrder es with
  | case1 => exact List.Perm.refl []
  | case2 e rest ih =>
      rw [preorders_append] at ih
      rw [preorders_cons, Element.preorder_eq, List.cons_append]
      exact (ih.trans List.perm_append_comm).cons e

/-- The scan is a search through the levels. -/
theorem scan_eq_find?_levelOrder (minLinks : Int) (q : Queue Element) :
    scan minLinks q = (levelOrder q.toList).find? fun e => e.isLinkBlock minLinks := by
  fun_induction scan minLinks q with
  | case1 q hpop => rw [Queue.toList_eq_nil_of_pop? hpop, levelOrder, List.find?_nil]
  | case2 q e rest hpop hblock =>
      rw [Queue.toList_eq_cons_of_pop? hpop, levelOrder, List.find?_cons_of_pos hblock]
  | case3 q e rest hpop hblock ih =>
      rw [Queue.toList_eq_cons_of_pop? hpop, levelOrder, List.find?_cons_of_neg hblock, ih,
        Queue.toList_pushAll]

/-- From the children of an element on, the scan comes by no element twice. -/
theorem Element.Distinct.levelOrder_nodup {r : Element} (h : r.Distinct) {es : List Element}
    (hes : es.Sublist r.elementChildren) : ((levelOrder es).map Element.id).Nodup := by
  have hsub : (preorders es).Sublist r.preorder := by
    rw [Element.preorder_eq]
    exact (hes.flatMap Element.preorder).cons r
  have hnodup : ((preorders es).map Element.id).Nodup := h.sublist (hsub.map Element.id)
  exact ((levelOrder_perm es).map Element.id).nodup_iff.mpr hnodup

end PageLandmarks

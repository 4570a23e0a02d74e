import PageLandmarks.Order
import PageLandmarks.Proofs.Tree.Subtree

/-!
# PageLandmarks.Proofs.Order

**The walk decides by the reading order.** The stack of the walk stands for the
rest of the reading order: visiting an element and putting its children in its
place takes one element off the front of it. So the walk ends at the first of the
two that the list of all identities has (`walk_eq_firstOf`), and in a tree without
repeated identities the verdict says which of the two is read before the other.
-/

namespace PageLandmarks

/-- Which of two identities comes first in a list. -/
def firstOf (first second : Option ElementId) : List ElementId → Verdict
  | [] => .neither
  | id :: ids =>
    if first = some id then .first
    else if second = some id then .second
    else firstOf first second ids

/-- The walk looks through the reading order of what is on its stack. -/
theorem walk_eq_firstOf (first second : Option ElementId) (stack : List Element) :
    walk first second stack = firstOf first second ((preorders stack).map Element.id) := by
  fun_induction walk first second stack with
  | case1 => rfl
  | case2 e rest h => simp [Element.preorder, firstOf, h]
  | case3 e rest h h' => simp [Element.preorder, firstOf, h, h']
  | case4 e rest h h' ih =>
      rw [ih, preorders_cons, Element.preorder_eq, List.cons_append, List.map_cons, firstOf,
        if_neg h, if_neg h', preorders_append]

/-- The first of two identities is met first if it is there and the second is not
before it. -/
theorem firstOf_eq_first_iff {x y : ElementId} {ids : List ElementId} (hnd : ids.Nodup) :
    firstOf (some x) (some y) ids = .first ↔ x ∈ ids ∧ ¬ [y, x].Sublist ids := by
  induction ids with
  | nil => simp [firstOf]
  | cons id ids ih =>
      obtain ⟨hid, hnd'⟩ := List.nodup_cons.mp hnd
      rw [firstOf]
      by_cases hx : x = id
      · subst hx
        -- a `y` before this `x` would leave another `x` for the rest
        have hnot : ¬ [y, x].Sublist (x :: ids) := by
          intro hsub
          rcases List.sublist_cons_iff.mp hsub with h | ⟨r, hr, h⟩
          · exact hid (h.subset (by simp))
          · obtain ⟨rfl, rfl⟩ := List.cons.inj hr
            exact hid (List.singleton_sublist.mp h)
        simp [hnot]
      · rw [if_neg (by simpa using hx)]
        by_cases hy : y = id
        · subst hy
          rw [if_pos rfl]
          refine iff_of_false (by simp) fun h => h.2 ?_
          have hmem : x ∈ ids := (List.mem_cons.mp h.1).resolve_left hx
          exact (List.singleton_sublist.mpr hmem).cons_cons y
        · rw [if_neg (by simpa using hy), ih hnd']
          have hsub : [y, x].Sublist (id :: ids) ↔ [y, x].Sublist ids := by
            refine ⟨fun h => ?_, fun h => h.cons id⟩
            rcases List.sublist_cons_iff.mp h with h | ⟨r, hr, -⟩
            · exact h
            · exact absurd (List.cons.inj hr).1 hy
          rw [hsub, List.mem_cons, or_iff_right hx]

/-- In a tree without repeated identities `first` is reached first if the tree has
it and does not read `second` before it. -/
theorem Element.Distinct.compareOrder_eq_first_iff {b : Element} (h : b.Distinct)
    {first second : ElementId} :
    compareOrder (some b) (some first) (some second) = .first ↔
      b.Holds first ∧ ¬ b.Reads second first := by
  have hids : (preorders (some b).toList).map Element.id = b.ids := by
    simp [Element.ids]
  rw [compareOrder, walk_eq_firstOf, hids]
  exact firstOf_eq_first_iff h

end PageLandmarks

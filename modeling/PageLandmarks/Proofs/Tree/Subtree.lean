import Mathlib.Data.List.Nodup
import PageLandmarks.Tree.Document

/-!
# PageLandmarks.Proofs.Tree.Subtree

**Subtrees and reading order.** The elements of a subtree are one block of the
reading order of the whole tree (`Element.preorder_block`). Where no identity
occurs twice (`Element.Distinct`), an identity names one element of the tree, two
elements are in one order and never in both, and that order is the same in every
subtree that has them both (`Element.Distinct.reads_iff`).
-/

namespace PageLandmarks

namespace Element

/-- The identities of the elements of a tree, in reading order. -/
def ids (e : Element) : List ElementId := e.preorder.map Element.id

/-- The element with this identity is in the tree: at its top or below. -/
def Holds (e : Element) (id : ElementId) : Prop := id ∈ e.ids

/-- In the tree, `first` is read before `second`, which is another element. -/
def Reads (e : Element) (first second : ElementId) : Prop := [first, second].Sublist e.ids

/-- No identity occurs twice in the tree. -/
def Distinct (e : Element) : Prop := e.ids.Nodup

instance (e : Element) (id : ElementId) : Decidable (e.Holds id) :=
  inferInstanceAs (Decidable (id ∈ e.ids))

instance (e : Element) (first second : ElementId) : Decidable (e.Reads first second) :=
  inferInstanceAs (Decidable ([first, second].Sublist e.ids))

end Element

/-! ### Subtrees are blocks -/

mutual

theorem Node.preorder_block {b : Element} : ∀ {n : Node}, b ∈ n.elements →
    b.preorder <:+: n.elements
  | .text _ _, h => absurd h List.not_mem_nil
  | .element tag children, h => by
      rw [Node.elements] at h ⊢
      rcases List.mem_cons.mp h with rfl | h
      · exact List.infix_refl _
      · exact (Nodes.preorder_block h).trans (List.suffix_cons _ _).isInfix

theorem Nodes.preorder_block {b : Element} : ∀ {ns : List Node}, b ∈ Nodes.elements ns →
    b.preorder <:+: Nodes.elements ns
  | [], h => absurd h List.not_mem_nil
  | n :: ns, h => by
      rw [Nodes.elements] at h ⊢
      rcases List.mem_append.mp h with h | h
      · exact (Node.preorder_block h).trans (List.prefix_append _ _).isInfix
      · exact (Nodes.preorder_block h).trans (List.suffix_append _ _).isInfix

end

namespace Element

/-- The elements of a subtree stand together in the reading order of the tree. -/
theorem preorder_block {b e : Element} (h : b ∈ e.preorder) : b.preorder <:+: e.preorder :=
  Node.preorder_block (n := .element e.tag e.children) h

theorem ids_block {b e : Element} (h : b ∈ e.preorder) : b.ids <:+: e.ids :=
  (preorder_block h).map Element.id

theorem mem_preorder_self (e : Element) : e ∈ e.preorder := List.mem_cons_self

theorem mem_preorder_of_mem_children {c e : Element} (h : c ∈ e.elementChildren) :
    c ∈ e.preorder := by
  rw [preorder_eq]
  exact List.mem_cons_of_mem _ (List.mem_flatMap.mpr ⟨c, h, c.mem_preorder_self⟩)

theorem holds_of_mem {a e : Element} (h : a ∈ e.preorder) : e.Holds a.id := List.mem_map_of_mem h

/-! ### Order of two identities -/

theorem Reads.left {e : Element} {x y : ElementId} (h : e.Reads x y) : e.Holds x :=
  h.subset List.mem_cons_self

/-- What is read before what in a subtree is so in the tree. -/
theorem Reads.of_subtree {b e : Element} {x y : ElementId} (h : b.Reads x y)
    (hb : b ∈ e.preorder) : e.Reads x y :=
  List.Sublist.trans h (ids_block hb).sublist

/-- Two different elements of a tree are in some order. -/
theorem reads_or_reads {e : Element} {x y : ElementId} (hx : e.Holds x) (hy : e.Holds y)
    (hne : x ≠ y) : e.Reads x y ∨ e.Reads y x := by
  obtain ⟨before, after, hids⟩ := List.append_of_mem hx
  rw [Holds, hids, List.mem_append, List.mem_cons] at hy
  rw [Reads, Reads, hids]
  rcases hy with hy | rfl | hy
  · right
    exact (List.singleton_sublist.mpr hy).append (List.singleton_sublist.mpr List.mem_cons_self)
  · exact absurd rfl hne
  · left
    exact ((List.singleton_sublist.mpr hy).cons_cons x).trans (List.sublist_append_right _ _)

namespace Distinct

variable {b e : Element} {x y : ElementId}

theorem subtree (h : e.Distinct) (hb : b ∈ e.preorder) : b.Distinct :=
  h.sublist (ids_block hb).sublist

theorem not_reads_self (h : e.Distinct) (x : ElementId) : ¬ e.Reads x x :=
  List.nodup_iff_sublist.mp h x

/-- Two elements are not in both orders: the first one would stand on either side
of a place between them. -/
theorem reads_asymm (h : e.Distinct) (hxy : e.Reads x y) : ¬ e.Reads y x := by
  intro hyx
  obtain ⟨before, after, hids, hx, hy⟩ := List.cons_sublist_iff.mp hxy
  obtain ⟨before', after', hids', hy', hx'⟩ := List.cons_sublist_iff.mp hyx
  rw [List.singleton_sublist] at hy hx'
  rw [Distinct, hids] at h
  have hdisjoint := List.disjoint_of_nodup_append h
  rcases List.append_eq_append_iff.mp (hids.symm.trans hids') with
    ⟨between, -, rfl⟩ | ⟨between, rfl, -⟩
  · exact hdisjoint hx (List.mem_append_right _ hx')
  · exact hdisjoint (List.mem_append_left _ hy') hy

theorem not_reads_iff (h : e.Distinct) (hx : e.Holds x) (hy : e.Holds y) (hne : x ≠ y) :
    ¬ e.Reads x y ↔ e.Reads y x :=
  ⟨fun hn => (reads_or_reads hx hy hne).resolve_left hn, fun hyx => h.reads_asymm hyx⟩

/-- The order of two elements is the same in every subtree that has them both. -/
theorem reads_iff (h : e.Distinct) (hb : b ∈ e.preorder) (hx : b.Holds x) (hy : b.Holds y) :
    b.Reads x y ↔ e.Reads x y := by
  refine ⟨fun hxy => hxy.of_subtree hb, fun hxy => ?_⟩
  have hne : x ≠ y := by
    rintro rfl
    exact h.not_reads_self x hxy
  rcases reads_or_reads hx hy hne with hxy' | hyx
  · exact hxy'
  · exact absurd hxy (h.reads_asymm (hyx.of_subtree hb))

end Distinct

end Element

/-! ### Children -/

/-- Each element stands in the reading order of its own tree. -/
theorem sublist_preorders (es : List Element) : es.Sublist (preorders es) := by
  induction es with
  | nil => exact List.nil_sublist _
  | cons e es ih =>
      rw [preorders_cons, Element.preorder, List.cons_append]
      exact (ih.trans (List.sublist_append_right _ _)).cons_cons e

theorem Element.Distinct.children_nodup {e : Element} (h : e.Distinct) :
    (e.elementChildren.map Element.id).Nodup := by
  refine h.sublist (List.Sublist.map _ ?_)
  rw [Element.preorder_eq]
  exact (sublist_preorders _).trans (List.sublist_cons_self _ _)

/-! ### Search -/

/-- Among elements without repeated identities the search for an identity finds
the one element that has it. -/
theorem find?_id_eq_some_iff {es : List Element} (hnd : (es.map Element.id).Nodup)
    {id : ElementId} {a : Element} :
    (es.find? fun e => e.id == id) = some a ↔ a ∈ es ∧ a.id = id := by
  constructor
  · intro hfind
    exact ⟨List.mem_of_find?_eq_some hfind, by simpa using List.find?_some hfind⟩
  · rintro ⟨ha, rfl⟩
    cases hfind : es.find? fun e => e.id == a.id with
    | none => exact absurd (List.find?_eq_none.mp hfind a ha) (by simp)
    | some e =>
        have hid : e.id = a.id := by simpa using List.find?_some hfind
        rw [List.inj_on_of_nodup_map hnd (List.mem_of_find?_eq_some hfind) ha hid]

namespace Document

/-- No identity occurs twice in the trees of the document. -/
def Distinct (d : Document) : Prop := ((preorders d.trees).map Element.id).Nodup

theorem find?_eq (d : Document) (id : ElementId) :
    d.find? id = (preorders d.trees).find? fun e => e.id == id := by
  rw [find?, preorders, List.find?_flatMap]
  exact congrArg (List.findSome? · d.trees) (funext fun e => Element.find?_eq id e)

theorem root_preorder (d : Document) : d.root.preorder = d.root :: d.elements := rfl

theorem Distinct.find?_eq_some_iff {d : Document} (h : d.Distinct) {id : ElementId}
    {a : Element} : d.find? id = some a ↔ a ∈ preorders d.trees ∧ a.id = id := by
  rw [d.find?_eq id]
  exact find?_id_eq_some_iff h

theorem Distinct.root {d : Document} (h : d.Distinct) : d.root.Distinct := by
  refine h.sublist (List.Sublist.map _ ?_)
  rw [trees, preorders_cons]
  exact List.sublist_append_left _ _

end Document

end PageLandmarks

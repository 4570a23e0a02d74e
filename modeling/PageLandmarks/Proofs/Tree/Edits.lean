import Mathlib.Data.List.Perm.Basic
import PageLandmarks.Proofs.Tree.Numbering

/-!
# PageLandmarks.Proofs.Tree.Edits

**Edits keep every element, and none twice.** What a document has is told by the
identities in all its trees (`Document.ids`). An attribute leaves them as they are, taking
an element out moves its subtree from one tree to a tree of its own, and a new element
brings one new number (`Document.apply_ids`). The number is new because all numbers so far
are below the next one (`Document.Sound`), which every edit keeps. So however a document is
edited, no identity occurs twice in it, and none is lost.

Each change is made wherever its identity occurs. That it is made once, and not nowhere or
twice, comes from the identity being in the tree and occurring once there.
-/

namespace PageLandmarks

/-! ### Identities of nodes -/

/-- The identities of the elements of a node, in reading order. -/
def Node.ids (n : Node) : List ElementId := n.elements.map Element.id

/-- The identities of the elements of a list of nodes, in reading order. -/
def Nodes.ids (ns : List Node) : List ElementId := (Nodes.elements ns).map Element.id

@[simp] theorem Nodes.ids_nil : Nodes.ids [] = [] := rfl

@[simp] theorem Nodes.ids_cons (n : Node) (ns : List Node) :
    Nodes.ids (n :: ns) = n.ids ++ Nodes.ids ns := by
  rw [Nodes.ids, Nodes.elements, List.map_append]
  rfl

@[simp] theorem Nodes.ids_append (ns ms : List Node) :
    Nodes.ids (ns ++ ms) = Nodes.ids ns ++ Nodes.ids ms := by
  rw [Nodes.ids, Nodes.elements_append, List.map_append]
  rfl

@[simp] theorem Node.ids_element (tag : Tag) (children : List Node) :
    (Node.element tag children).ids = tag.id :: Nodes.ids children := rfl

theorem Element.ids_eq (e : Element) : e.ids = e.id :: Nodes.ids e.children := rfl

/-- Two lists at the end change places. -/
theorem perm_append_right_comm {α : Type} (xs ys zs : List α) :
    (xs ++ ys ++ zs).Perm (xs ++ zs ++ ys) := by
  rw [List.append_assoc, List.append_assoc]
  exact List.perm_append_comm.append_left xs

/-! ### Changes to one element -/

section Modify

variable {id : ElementId} {change : Element → Element}

mutual

theorem Node.modify_of_not_mem : ∀ {n : Node}, id ∉ n.ids → n.modify id change = n
  | .text _ _, _ => by rw [Node.modify]
  | .element tag children, h => by
      rw [Node.ids_element, List.mem_cons, not_or] at h
      rw [Node.modify, if_neg (Ne.symm h.1), Nodes.modify_of_not_mem h.2]

/-- A change to an element that is not there changes nothing. -/
theorem Nodes.modify_of_not_mem :
    ∀ {ns : List Node}, id ∉ Nodes.ids ns → Nodes.modify id change ns = ns
  | [], _ => by rw [Nodes.modify]
  | n :: ns, h => by
      rw [Nodes.ids_cons, List.mem_append, not_or] at h
      rw [Nodes.modify, Node.modify_of_not_mem h.1, Nodes.modify_of_not_mem h.2]

end

variable {added : List ElementId}

mutual

theorem Node.modify_ids (hchange : ∀ e, (change e).ids.Perm (e.ids ++ added)) :
    ∀ {n : Node}, n.ids.Nodup → id ∈ n.ids → (n.modify id change).ids.Perm (n.ids ++ added)
  | .text _ _, _, h => absurd h List.not_mem_nil
  | .element tag children, hnd, h => by
      rw [Node.modify]
      by_cases htag : tag.id = id
      · rw [if_pos htag]
        exact hchange ⟨tag, children⟩
      · rw [Node.ids_element] at hnd h
        have hbelow : id ∈ Nodes.ids children := (List.mem_cons.mp h).resolve_left (Ne.symm htag)
        rw [if_neg htag, Node.ids_element, Node.ids_element, List.cons_append]
        exact (Nodes.modify_ids hchange (List.nodup_cons.mp hnd).2 hbelow).cons tag.id

/-- A change that adds elements to the one it is made to adds them once to the whole. -/
theorem Nodes.modify_ids (hchange : ∀ e, (change e).ids.Perm (e.ids ++ added)) :
    ∀ {ns : List Node}, (Nodes.ids ns).Nodup → id ∈ Nodes.ids ns →
      (Nodes.ids (Nodes.modify id change ns)).Perm (Nodes.ids ns ++ added)
  | [], _, h => absurd h List.not_mem_nil
  | n :: ns, hnd, h => by
      rw [Nodes.ids_cons] at hnd h
      have hdisjoint := List.disjoint_of_nodup_append hnd
      rw [Nodes.modify, Nodes.ids_cons, Nodes.ids_cons]
      -- the identity is in the first node or in the others, which are then left alone
      rcases List.mem_append.mp h with h | h
      · have hfirst := Node.modify_ids hchange hnd.of_append_left h
        rw [Nodes.modify_of_not_mem (hdisjoint h)]
        exact (hfirst.append_right _).trans (perm_append_right_comm _ _ _)
      · have hrest := Nodes.modify_ids hchange hnd.of_append_right h
        rw [Node.modify_of_not_mem fun h' => hdisjoint h' h, List.append_assoc]
        exact hrest.append_left n.ids

end

end Modify

theorem Element.setAttr_ids (name : String) (value : AttrValue) (e : Element) :
    (e.setAttr name value).ids = e.ids := rfl

theorem Element.push_ids (e : Element) (n : Node) : (e.push n).ids = e.ids ++ n.ids := by
  rw [Element.ids_eq, Element.ids_eq, Element.push, Nodes.ids_append, Nodes.ids_cons,
    Nodes.ids_nil, List.append_nil]
  rfl

/-! ### Elements taken out -/

section Without

variable {id : ElementId}

mutual

theorem Node.without_of_not_mem : ∀ {n : Node}, id ∉ n.ids → n.without id = n
  | .text _ _, _ => by rw [Node.without]
  | .element tag children, h => by
      rw [Node.ids_element, List.mem_cons, not_or] at h
      rw [Node.without, Nodes.without_of_not_mem h.2]

/-- Where an element is not there, nothing is taken out. -/
theorem Nodes.without_of_not_mem :
    ∀ {ns : List Node}, id ∉ Nodes.ids ns → Nodes.without id ns = ns
  | [], _ => by rw [Nodes.without]
  | .text kind content :: ns, h => by
      rw [Nodes.ids_cons, List.mem_append, not_or] at h
      rw [Nodes.without, Nodes.without_of_not_mem h.2]
  | .element tag children :: ns, h => by
      rw [Nodes.ids_cons, List.mem_append, not_or] at h
      have htag : tag.id ≠ id := by
        rintro rfl
        exact h.1 List.mem_cons_self
      rw [Nodes.without, if_neg htag, Node.without_of_not_mem h.1, Nodes.without_of_not_mem h.2]

end

/-- An element that is taken out takes its subtree with it and nothing else. -/
theorem Nodes.without_ids {e : Element} {ns : List Node} (hnd : (Nodes.ids ns).Nodup)
    (he : e ∈ Nodes.elements ns) :
    (Nodes.ids (Nodes.without e.id ns) ++ e.ids).Perm (Nodes.ids ns) := by
  match ns with
  | [] => exact absurd he List.not_mem_nil
  | .text kind content :: ns =>
      rw [Nodes.without]
      exact Nodes.without_ids hnd he
  | .element tag children :: ns =>
      rw [Nodes.ids_cons] at hnd ⊢
      have hdisjoint := List.disjoint_of_nodup_append hnd
      rw [Nodes.elements, Node.elements, List.cons_append, List.mem_cons, List.mem_append] at he
      rw [Nodes.without]
      rcases he with rfl | he | he
      · -- it is this node
        have hrest : Element.id ⟨tag, children⟩ ∉ Nodes.ids ns := hdisjoint List.mem_cons_self
        rw [if_pos (show tag.id = Element.id ⟨tag, children⟩ from rfl),
          Nodes.without_of_not_mem hrest]
        exact List.perm_append_comm
      · -- it is below this node
        obtain ⟨htop, hchildren⟩ : tag.id ∉ Nodes.ids children ∧ (Nodes.ids children).Nodup :=
          List.nodup_cons.mp hnd.of_append_left
        have hid : e.id ∈ Nodes.ids children := List.mem_map_of_mem he
        have htag : tag.id ≠ e.id := fun htag => htop (htag ▸ hid)
        have hrest : e.id ∉ Nodes.ids ns := hdisjoint (List.mem_cons_of_mem _ hid)
        have hbelow := Nodes.without_ids hchildren he
        rw [if_neg htag, Nodes.without_of_not_mem hrest, Node.without, Nodes.ids_cons,
          Node.ids_element, Node.ids_element]
        exact (perm_append_right_comm _ _ _).trans ((hbelow.cons tag.id).append_right _)
      · -- it is behind this node
        have hid : e.id ∈ Nodes.ids ns := List.mem_map_of_mem he
        have hfirst : e.id ∉ (Node.element tag children).ids := fun h => hdisjoint h hid
        have htag : tag.id ≠ e.id := fun htag => hfirst (htag ▸ List.mem_cons_self)
        have hbehind := Nodes.without_ids hnd.of_append_right he
        rw [if_neg htag, Node.without_of_not_mem hfirst, Nodes.ids_cons, List.append_assoc]
        exact hbehind.append_left _
termination_by sizeOf ns

end Without

/-! ### All trees of a document -/

/-- The trees as nodes. -/
theorem Nodes.ids_map_node (es : List Element) :
    Nodes.ids (es.map Element.node) = (preorders es).map Element.id := by
  induction es with
  | nil => rfl
  | cons e es ih =>
      rw [List.map_cons, Nodes.ids_cons, ih, preorders_cons, List.map_append]
      rfl

theorem Nodes.mem_elements_map_node {e : Element} {es : List Element} :
    e ∈ Nodes.elements (es.map Element.node) ↔ e ∈ preorders es := by
  induction es with
  | nil => rfl
  | cons f es ih =>
      rw [List.map_cons, Nodes.elements, List.mem_append, ih, preorders_cons, List.mem_append]
      rfl

theorem Nodes.modify_map_node (id : ElementId) (change : Element → Element) (es : List Element) :
    Nodes.modify id change (es.map Element.node) =
      (es.map (Element.modify id change)).map Element.node := by
  induction es with
  | nil => rfl
  | cons e es ih =>
      have hfirst : e.node.modify id change = (e.modify id change).node := by
        rw [Element.node, Node.modify, Element.modify]
        split
        · rename_i htag
          rw [if_pos (show e.id = id from htag)]
        · rename_i htag
          rw [if_neg (show e.id ≠ id from htag)]
          rfl
      rw [List.map_cons, Nodes.modify, ih, hfirst]
      rfl

/-- An element that is no top of a tree is taken out of what the trees have below. -/
theorem Nodes.without_map_node {id : ElementId} {es : List Element} (h : ∀ e ∈ es, e.id ≠ id) :
    Nodes.without id (es.map Element.node) = (es.map (Element.without id)).map Element.node := by
  induction es with
  | nil => rfl
  | cons e es ih =>
      obtain ⟨hfirst, hrest⟩ := List.forall_mem_cons.mp h
      rw [List.map_cons, Element.node, Nodes.without, if_neg (show e.tag.id ≠ id from hfirst),
        ih hrest, Node.without]
      rfl

namespace Document

variable {d : Document} {id : ElementId}

/-- The identities of the elements in all trees of the document. -/
def ids (d : Document) : List ElementId := (preorders d.trees).map Element.id

theorem trees_modify (d : Document) (id : ElementId) (change : Element → Element) :
    (d.modify id change).trees = d.trees.map (Element.modify id change) := rfl

/-- A change adds what it adds to its element, if the document has that element. -/
theorem modify_ids (h : d.Distinct) (hid : id ∈ d.ids) {change : Element → Element}
    {added : List ElementId} (hchange : ∀ e, (change e).ids.Perm (e.ids ++ added)) :
    (d.modify id change).ids.Perm (d.ids ++ added) := by
  rw [Distinct, ← Nodes.ids_map_node] at h
  rw [ids, ← Nodes.ids_map_node] at hid ⊢
  rw [ids, ← Nodes.ids_map_node, trees_modify, ← Nodes.modify_map_node]
  exact Nodes.modify_ids hchange h hid

theorem modify_ids_of_not_mem (hid : id ∉ d.ids) (change : Element → Element) :
    (d.modify id change).ids = d.ids := by
  rw [ids, ← Nodes.ids_map_node] at hid
  rw [ids, ← Nodes.ids_map_node, trees_modify, ← Nodes.modify_map_node,
    Nodes.modify_of_not_mem hid, Nodes.ids_map_node]
  rfl

theorem exists_find?_iff : (∃ e, d.find? id = some e) ↔ id ∈ d.ids := by
  rw [d.find?_eq id, ids, List.mem_map]
  constructor
  · rintro ⟨e, he⟩
    exact ⟨e, List.mem_of_find?_eq_some he, by simpa using List.find?_some he⟩
  · rintro ⟨e, he, rfl⟩
    have hsome : ((preorders d.trees).find? fun f => f.id == e.id).isSome = true :=
      List.find?_isSome.mpr ⟨e, he, by simp⟩
    exact Option.isSome_iff_exists.mp hsome

/-- An element taken out is in a tree of its own, and everything else where it was. -/
theorem extract_ids (h : d.Distinct) {e : Element} (htop : d.isTop id = false)
    (he : d.find? id = some e) :
    ((preorders (d.root.without id :: e :: d.detached.map (Element.without id))).map
      Element.id).Perm d.ids := by
  obtain ⟨hmem, rfl⟩ := h.find?_eq_some_iff.mp he
  have htops : ∀ t ∈ d.trees, t.id ≠ e.id := by
    intro t ht hid
    rw [isTop, List.any_eq_false] at htop
    exact htop t ht (by simp [hid])
  rw [Distinct, ← Nodes.ids_map_node] at h
  have hperm := Nodes.without_ids h (Nodes.mem_elements_map_node.mpr hmem)
  rw [Nodes.without_map_node htops, Nodes.ids_map_node, Nodes.ids_map_node] at hperm
  refine List.Perm.trans ?_ hperm
  simp only [trees, List.map_cons, preorders_cons, List.map_append]
  exact (List.perm_append_comm.append_left _).trans (by rw [List.append_assoc]; rfl)

/-! ### What edits keep -/

/-- No identity occurs twice, and all numbers are below the next one. -/
structure Sound (d : Document) : Prop where
  distinct : d.Distinct
  below : ∀ n, .numbered n ∈ d.ids → n < d.nextId

/-- An edit leaves the identities as they are, or adds the next number to them. -/
theorem apply_ids (h : d.Distinct) (e : Edit) :
    ((d.apply e).ids.Perm d.ids ∧ (d.apply e).nextId = d.nextId) ∨
      ((d.apply e).ids.Perm (d.ids ++ [.numbered d.nextId]) ∧
        (d.apply e).nextId = d.nextId + 1) := by
  unfold apply
  split
  · exact Or.inl ⟨List.Perm.refl _, rfl⟩
  · cases e with
    | append parent name attrs text =>
        simp only [perform]
        cases hparent : d.find? parent with
        | none => exact Or.inl ⟨List.Perm.refl _, rfl⟩
        | some e =>
            refine Or.inr ⟨?_, rfl⟩
            refine modify_ids h (exists_find?_iff.mp ⟨e, hparent⟩) fun e => ?_
            -- the text of a new element is no element
            rw [Element.push_ids]
            cases text <;> rfl
    | extract id =>
        left
        simp only [perform]
        split
        · exact ⟨List.Perm.refl _, rfl⟩
        · rename_i htop
          split
          · exact ⟨List.Perm.refl _, rfl⟩
          · rename_i e he
            exact ⟨extract_ids h (by simpa using htop) he, rfl⟩
    | setAttr id name value =>
        left
        refine ⟨?_, rfl⟩
        by_cases hid : id ∈ d.ids
        · have hperm : (d.modify id (Element.setAttr name value)).ids.Perm (d.ids ++ []) :=
            modify_ids h hid fun e => by rw [Element.setAttr_ids, List.append_nil]
          rwa [List.append_nil] at hperm
        · rw [perform, modify_ids_of_not_mem hid]

theorem Sound.apply (h : d.Sound) (e : Edit) : (d.apply e).Sound := by
  rcases apply_ids h.distinct e with ⟨hids, hnext⟩ | ⟨hids, hnext⟩
  · refine ⟨hids.nodup_iff.mpr h.distinct, fun n hn => ?_⟩
    rw [hnext]
    exact h.below n (hids.mem_iff.mp hn)
  · have hnew : ElementId.numbered d.nextId ∉ d.ids := fun hmem =>
      Nat.lt_irrefl _ (h.below _ hmem)
    refine ⟨hids.nodup_iff.mpr ?_, fun n hn => ?_⟩
    · exact h.distinct.append (List.nodup_singleton _) (List.disjoint_singleton.mpr hnew)
    · rw [hnext]
      rcases List.mem_append.mp (hids.mem_iff.mp hn) with hn | hn
      · exact Nat.lt_succ_of_lt (h.below n hn)
      · obtain rfl := ElementId.numbered.inj (List.mem_singleton.mp hn)
        exact Nat.lt_succ_self _

/-- No element is lost. -/
theorem Distinct.ids_subset_apply (h : d.Distinct) (e : Edit) : d.ids ⊆ (d.apply e).ids := by
  intro id hid
  rcases apply_ids h e with ⟨hids, -⟩ | ⟨hids, -⟩
  · exact hids.mem_iff.mpr hid
  · exact hids.mem_iff.mpr (List.mem_append_left _ hid)

/-- **However a document is edited**, it has each of its elements, and none twice. -/
theorem Sound.foldl_apply (edits : List Edit) (h : d.Sound) :
    (edits.foldl Document.apply d).Sound ∧ d.ids ⊆ (edits.foldl Document.apply d).ids := by
  induction edits generalizing d with
  | nil => exact ⟨h, fun _ hid => hid⟩
  | cons e edits ih =>
      obtain ⟨hsound, hsubset⟩ := ih (h.apply e)
      exact ⟨hsound, fun _ hid => hsubset (h.distinct.ids_subset_apply e hid)⟩

/-- Any element of the document has a tree without repeated identities below it. -/
theorem Distinct.subtree {r : Element} (h : d.Distinct) (hr : r ∈ preorders d.trees) :
    r.Distinct := by
  obtain ⟨t, ht, hrt⟩ := List.mem_flatMap.mp hr
  have htree : t.Distinct := by
    refine h.sublist (List.Sublist.map _ ?_)
    rw [preorders, List.flatMap_def]
    exact List.sublist_flatten_of_mem (List.mem_map_of_mem ht)
  exact htree.subtree hrt

theorem parse_sound {text : String} (h : parse text = .ok d) : d.Sound := by
  obtain ⟨hroot, hdetached, hids⟩ := parse_numbered h
  refine ⟨parse_distinct h, fun n hn => ?_⟩
  have hall : d.ids = d.root.id :: d.elements.map Element.id := by
    rw [ids, trees, hdetached, preorders_cons, preorders_nil, List.append_nil, root_preorder]
    rfl
  have hrootId : d.root.id = .root := by rw [Element.id, hroot]; rfl
  rw [hall, hids, hrootId, List.mem_cons] at hn
  simpa using hn

end Document

end PageLandmarks

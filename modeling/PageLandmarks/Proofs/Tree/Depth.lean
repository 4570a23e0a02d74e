import PageLandmarks.Tree.Basic

/-!
# PageLandmarks.Proofs.Tree.Depth

**Elements by depth.** `ranked` lists the elements of several trees in reading order, each
with the number of elements that it is in. `byDepth` lists the same elements by increasing
depth, and those of one depth as they are read. The search in that list ends at the least
depth there is, and there at the element that is read first
(`shallowest_of_find?_byDepth`).

One level further down, the elements are those of the children (`atDepth_succ`). This is how
a search that knows nothing of depths comes by the same list.
-/

namespace PageLandmarks

/-! ### Reading order with depths -/

mutual

/-- The elements of a node in reading order, each with its depth, for a node at this
depth. -/
def Node.depths (depth : Nat) : Node → List (Nat × Element)
  | .text _ _ => []
  | .element tag children => (depth, ⟨tag, children⟩) :: Nodes.depths (depth + 1) children

/-- The elements of a list of nodes in reading order, each with its depth. -/
def Nodes.depths (depth : Nat) : List Node → List (Nat × Element)
  | [] => []
  | n :: ns => n.depths depth ++ Nodes.depths depth ns

end

/-- The elements of several trees in reading order, each with its depth. The tops of the
trees are at depth 0. -/
def ranked (es : List Element) : List (Nat × Element) := Nodes.depths 0 (es.map Element.node)

/-- The elements at a depth, in reading order. -/
def atDepth (depth : Nat) (es : List Element) : List Element :=
  ((ranked es).filter fun x => x.1 == depth).map Prod.snd

/-- The elements of several trees by increasing depth, and in reading order at each depth.
No element is as deep as there are elements. -/
def byDepth (es : List Element) : List Element :=
  (List.range (preorders es).length).flatMap fun depth => atDepth depth es

/-- The elements directly in several elements. -/
def childrenOfAll (es : List Element) : List Element := es.flatMap Element.elementChildren

mutual

theorem Node.depths_map_snd (depth : Nat) :
    ∀ n : Node, (n.depths depth).map Prod.snd = n.elements
  | .text _ _ => rfl
  | .element tag children => by
      rw [Node.depths, List.map_cons, Nodes.depths_map_snd (depth + 1) children, Node.elements]

/-- Without the depths, this is the reading order. -/
theorem Nodes.depths_map_snd (depth : Nat) :
    ∀ ns : List Node, (Nodes.depths depth ns).map Prod.snd = Nodes.elements ns
  | [] => rfl
  | n :: ns => by
      rw [Nodes.depths, List.map_append, Node.depths_map_snd depth n,
        Nodes.depths_map_snd depth ns, Nodes.elements]

end

mutual

theorem Node.depths_succ (depth : Nat) :
    ∀ n : Node, n.depths (depth + 1) = (n.depths depth).map (Prod.map Nat.succ id)
  | .text _ _ => rfl
  | .element tag children => by
      rw [Node.depths, Node.depths, List.map_cons, Nodes.depths_succ (depth + 1) children]
      rfl

/-- Nodes that are one deeper have all their elements one deeper. -/
theorem Nodes.depths_succ (depth : Nat) :
    ∀ ns : List Node,
      Nodes.depths (depth + 1) ns = (Nodes.depths depth ns).map (Prod.map Nat.succ id)
  | [] => rfl
  | n :: ns => by
      rw [Nodes.depths, Nodes.depths, List.map_append, Node.depths_succ depth n,
        Nodes.depths_succ depth ns]

end

theorem Nodes.depths_append (depth : Nat) (ns ms : List Node) :
    Nodes.depths depth (ns ++ ms) = Nodes.depths depth ns ++ Nodes.depths depth ms := by
  induction ns with
  | nil => rfl
  | cons n ns ih => rw [List.cons_append, Nodes.depths, Nodes.depths, ih, List.append_assoc]

/-- Texts have no part in it. -/
theorem Nodes.depths_zero (ns : List Node) : Nodes.depths 0 ns = ranked (elementsOf ns) := by
  induction ns with
  | nil => rfl
  | cons n ns ih =>
      cases n with
      | text kind content =>
          rw [Nodes.depths, Node.depths, List.nil_append, ih]
          rfl
      | element tag children =>
          rw [Nodes.depths, ih]
          rfl

theorem ranked_append (es fs : List Element) : ranked (es ++ fs) = ranked es ++ ranked fs := by
  rw [ranked, List.map_append, Nodes.depths_append]
  rfl

/-- The elements below the top of a tree are one deeper than they are below its children. -/
theorem ranked_cons (e : Element) (es : List Element) :
    ranked (e :: es) =
      (0, e) :: (ranked e.elementChildren).map (Prod.map Nat.succ id) ++ ranked es := by
  have hchildren : Nodes.depths 1 e.children =
      (ranked e.elementChildren).map (Prod.map Nat.succ id) := by
    rw [Nodes.depths_succ, Nodes.depths_zero]
    rfl
  rw [← hchildren]
  rfl

theorem ranked_map_snd (es : List Element) : (ranked es).map Prod.snd = preorders es := by
  have htops : elementsOf (es.map Element.node) = es := by
    rw [elementsOf, List.filterMap_map]
    exact List.filterMap_some
  rw [ranked, Nodes.depths_map_snd, Nodes.elements_eq_preorders, htops]

/-! ### Levels -/

theorem atDepth_append (depth : Nat) (es fs : List Element) :
    atDepth depth (es ++ fs) = atDepth depth es ++ atDepth depth fs := by
  rw [atDepth, ranked_append, List.filter_append, List.map_append]
  rfl

@[simp] theorem atDepth_nil (depth : Nat) : atDepth depth [] = [] := rfl

/-- The tops of the trees are the first level. -/
theorem atDepth_zero (es : List Element) : atDepth 0 es = es := by
  induction es with
  | nil => rfl
  | cons e es ih =>
      -- whatever is below the top has a depth other than 0
      have hbelow : ((ranked e.elementChildren).map (Prod.map Nat.succ id)).filter
          (fun x => x.1 == 0) = [] := by
        rw [List.filter_map, List.map_eq_nil_iff, List.filter_eq_nil_iff]
        intro x _
        simp
      rw [atDepth] at ih ⊢
      rw [ranked_cons, List.cons_append, List.filter_cons_of_pos (by rfl), List.filter_append,
        hbelow, List.nil_append, List.map_cons, ih]

theorem atDepth_succ_cons (depth : Nat) (e : Element) (es : List Element) :
    atDepth (depth + 1) (e :: es) =
      atDepth depth e.elementChildren ++ atDepth (depth + 1) es := by
  have hbelow : ((ranked e.elementChildren).map (Prod.map Nat.succ id)).filter
      (fun x => x.1 == depth + 1) =
        ((ranked e.elementChildren).filter fun x => x.1 == depth).map (Prod.map Nat.succ id) := by
    rw [List.filter_map]
    congr 1
    exact List.filter_congr fun x _ => by simp
  rw [atDepth, ranked_cons, List.cons_append, List.filter_cons_of_neg (by simp),
    List.filter_append, hbelow, List.map_append, List.map_map]
  rfl

/-- The next level has the children of the level before. -/
theorem atDepth_succ (depth : Nat) (es : List Element) :
    atDepth (depth + 1) es = atDepth depth (childrenOfAll es) := by
  induction es with
  | nil => rfl
  | cons e es ih =>
      rw [atDepth_succ_cons, ih, ← atDepth_append]
      rfl

/-- What is below the first level is fewer by that level. -/
theorem length_preorders_childrenOfAll (es : List Element) :
    (preorders es).length = es.length + (preorders (childrenOfAll es)).length := by
  induction es with
  | nil => rfl
  | cons e es ih =>
      rw [preorders_cons, Element.preorder_eq, childrenOfAll, List.flatMap_cons,
        preorders_append]
      simp only [List.length_append, List.length_cons]
      rw [ih, childrenOfAll]
      omega

/-! ### The search by depth -/

/-- Of the elements in the trees `es` that have a property, `e` is one of the least depth,
and of those it is the one read first: the ones read before it are deeper, and the ones read
after it are at least as deep. -/
def Shallowest (p : Element → Bool) (es : List Element) (e : Element) : Prop :=
  p e = true ∧ ∃ depth before after, ranked es = before ++ (depth, e) :: after ∧
    (∀ x ∈ before, p x.2 = true → depth < x.1) ∧ ∀ x ∈ after, p x.2 = true → depth ≤ x.1

/-- The first element of a level with some property, as it stands in the reading order. -/
theorem find?_atDepth_eq_some {p : Element → Bool} {depth : Nat} {es : List Element}
    {e : Element} (h : (atDepth depth es).find? p = some e) :
    p e = true ∧ ∃ before after, ranked es = before ++ (depth, e) :: after ∧
      ∀ x ∈ before, p x.2 = true → x.1 ≠ depth := by
  rw [atDepth, List.find?_map, List.find?_filter] at h
  obtain ⟨⟨depth', e'⟩, hfind, rfl⟩ := Option.map_eq_some_iff.mp h
  obtain ⟨hx, before, after, hsplit, hbefore⟩ := List.find?_eq_some_iff_append.mp hfind
  obtain ⟨rfl, hp⟩ : depth' = depth ∧ p e' = true := by simpa using hx
  refine ⟨hp, before, after, hsplit, fun x hxb hpx hdepth => ?_⟩
  simpa [hdepth, hpx] using hbefore x hxb

theorem find?_atDepth_eq_none {p : Element → Bool} {depth : Nat} {es : List Element}
    (h : (atDepth depth es).find? p = none) : ∀ x ∈ ranked es, p x.2 = true → x.1 ≠ depth := by
  rintro x hx hp rfl
  have hmem : x.2 ∈ atDepth x.1 es :=
    List.mem_map_of_mem (List.mem_filter.mpr ⟨hx, beq_self_eq_true x.1⟩)
  exact List.find?_eq_none.mp h x.2 hmem hp

/-- What stands before a number in a range are all the numbers below it. -/
theorem mem_of_lt_of_range_eq {count n k : Nat} {less more : List Nat}
    (h : List.range count = less ++ n :: more) (hk : k < n) : k ∈ less := by
  rw [List.range_eq_range', List.range'_eq_append_iff] at h
  obtain ⟨first, -, rfl, hrest⟩ := h
  obtain ⟨hn, -⟩ := List.range'_eq_cons_iff.mp hrest.symm
  rw [← List.range_eq_range', List.mem_range]
  omega

/-- **The search by depth ends at the shallowest element**, the first one of its depth. -/
theorem shallowest_of_find?_byDepth {p : Element → Bool} {es : List Element} {e : Element}
    (h : (byDepth es).find? p = some e) : Shallowest p es e := by
  rw [byDepth, List.find?_flatMap] at h
  obtain ⟨less, depth, more, hrange, hfind, hless⟩ := List.findSome?_eq_some_iff.mp h
  obtain ⟨hp, before, after, hsplit, hbefore⟩ := find?_atDepth_eq_some hfind
  have hdepth : ∀ x ∈ ranked es, p x.2 = true → depth ≤ x.1 := by
    intro x hx hpx
    refine Nat.le_of_not_lt fun hlt => ?_
    -- a lesser depth is one that the search has gone through in vain
    have hsearched : x.1 ∈ less := mem_of_lt_of_range_eq hrange hlt
    exact find?_atDepth_eq_none (hless x.1 hsearched) x hx hpx rfl
  refine ⟨hp, depth, before, after, hsplit, ?_, ?_⟩
  · intro x hx hpx
    have hle := hdepth x (hsplit ▸ List.mem_append_left _ hx) hpx
    have hne := hbefore x hx hpx
    omega
  · intro x hx hpx
    exact hdepth x (hsplit ▸ List.mem_append_right _ (List.mem_cons_of_mem _ hx)) hpx

end PageLandmarks

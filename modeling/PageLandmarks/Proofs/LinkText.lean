import Mathlib.Data.List.Flatten
import Mathlib.Data.List.Perm.Basic
import PageLandmarks.Proofs.Tree.Likeness

/-!
# PageLandmarks.Proofs.LinkText

**A link block has no text but that of its links.** The scan compares nothing but two
lengths. An element that counts ordinary text has a text that is put together from its child
nodes, and the links among them count the same kinds of text. So the text of the links is a
part of the whole, in its order, and the whole is longer by exactly what the other child
nodes add (`Element.length_blankFreeText`). It is no longer only if they add nothing, and
they add nothing only if every text in them is blank.
-/

namespace PageLandmarks

/-! ### Texts in a node -/

/-- A text of this kind and content is in a node, at any depth. -/
inductive Node.HasText (kind : TextKind) (content : String) : Node → Prop
  /-- The node is that text. -/
  | here : Node.HasText kind content (.text kind content)
  /-- The text is in a child node. -/
  | inside {tag : Tag} {children : List Node} {n : Node} (hn : n ∈ children)
      (htext : Node.HasText kind content n) : Node.HasText kind content (.element tag children)

mutual

theorem Node.mem_pieces_iff {kinds : List TextKind} {s : String} :
    ∀ {n : Node}, s ∈ n.pieces kinds ↔ ∃ kind ∈ kinds, n.HasText kind s
  | .text kind content => by
      rw [Node.pieces]
      constructor
      · intro h
        by_cases hkind : kinds.contains kind = true
        · rw [if_pos hkind] at h
          obtain rfl := List.mem_singleton.mp h
          exact ⟨kind, List.contains_iff_mem.mp hkind, .here⟩
        · rw [if_neg hkind] at h
          exact absurd h List.not_mem_nil
      · rintro ⟨kind, hkind, ⟨⟩⟩
        rw [if_pos (List.contains_iff_mem.mpr hkind)]
        exact List.mem_singleton_self _
  | .element tag children => by
      rw [Node.pieces, Nodes.mem_pieces_iff]
      constructor
      · rintro ⟨n, hn, kind, hkind, htext⟩
        exact ⟨kind, hkind, .inside hn htext⟩
      · rintro ⟨kind, hkind, htext⟩
        cases htext with
        | inside hn htext => exact ⟨_, hn, kind, hkind, htext⟩

/-- The pieces of text are the texts of their kinds. -/
theorem Nodes.mem_pieces_iff {kinds : List TextKind} {s : String} :
    ∀ {ns : List Node}, s ∈ Nodes.pieces kinds ns ↔ ∃ n ∈ ns, ∃ kind ∈ kinds, n.HasText kind s
  | [] => by simp [Nodes.pieces]
  | n :: ns => by
      rw [Nodes.pieces, List.mem_append, Node.mem_pieces_iff, Nodes.mem_pieces_iff]
      simp only [List.mem_cons, exists_eq_or_imp]

end

/-- The characters of the pieces of text in a node, without the blanks. -/
def Node.squeezed (kinds : List TextKind) (n : Node) : List Char := squeezedPieces (n.pieces kinds)

theorem Nodes.squeezedPieces_eq_flatMap (kinds : List TextKind) (ns : List Node) :
    squeezedPieces (Nodes.pieces kinds ns) = ns.flatMap (Node.squeezed kinds) := by
  induction ns with
  | nil => rfl
  | cons n ns ih =>
      rw [Nodes.pieces, squeezedPieces, List.flatMap_append, List.flatMap_cons, ← ih]
      rfl

/-- A node adds nothing if all its texts that count are blank. -/
theorem Node.squeezed_eq_nil_iff {kinds : List TextKind} {n : Node} :
    n.squeezed kinds = [] ↔ ∀ kind ∈ kinds, ∀ content, n.HasText kind content →
      ∀ c ∈ content.toList, Text.isBlank c = true := by
  rw [Node.squeezed, squeezedPieces, List.flatMap_eq_nil_iff]
  constructor
  · intro h kind hkind content htext c hc
    have hnil := h content (Node.mem_pieces_iff.mpr ⟨kind, hkind, htext⟩)
    simpa using List.filter_eq_nil_iff.mp hnil c hc
  · intro h content hcontent
    obtain ⟨kind, hkind, htext⟩ := Node.mem_pieces_iff.mp hcontent
    refine List.filter_eq_nil_iff.mpr fun c hc => ?_
    simpa using h kind hkind content htext c hc

/-! ### Links -/

/-- The node is a link. -/
def Node.isLink : Node → Bool
  | .text _ _ => false
  | .element tag _ => tag.isHyperlink

/-- The names of the elements that count texts of one kind of their own. -/
def namesOfOwnKind : List String := ["script", "style", "template", "rt", "rp"]

theorem countedKinds_of_not_mem {name : String} (h : name ∉ namesOfOwnKind) :
    countedKinds name = [.ordinary, .cdata] := by
  have hnone : TextKind.inside? name = none := by
    rw [TextKind.inside?, List.lookup_eq_none_iff]
    rintro ⟨other, kind⟩ hentry
    have hother : other ∈ namesOfOwnKind := List.mem_map_of_mem (f := Prod.fst) hentry
    simpa using fun heq : name = other => h (heq ▸ hother)
  rw [countedKinds, hnone]

theorem Tag.countedKinds_of_isHyperlink {tag : Tag} (h : tag.isHyperlink = true) :
    countedKinds tag.name = [.ordinary, .cdata] := by
  refine countedKinds_of_not_mem ?_
  rw [Tag.isHyperlink, Bool.and_eq_true, Bool.or_eq_true, beq_iff_eq, beq_iff_eq] at h
  rcases h.1 with hname | hname
  · rw [hname]; decide
  · rw [hname]; decide

namespace Element

theorem blankFreeText_toList (e : Element) :
    e.blankFreeText.toList = e.children.flatMap (Node.squeezed (countedKinds e.name)) := by
  rw [blankFreeText, String.toList_ofList, text, squeeze_join, Nodes.squeezedPieces_eq_flatMap]

/-- A link counts ordinary text, so its text is what it adds as a node. -/
theorem blankFreeText_toList_of_isHyperlink {c : Element} (h : c.tag.isHyperlink = true) :
    c.blankFreeText.toList = c.node.squeezed [.ordinary, .cdata] := by
  rw [blankFreeText_toList, name, Tag.countedKinds_of_isHyperlink h,
    ← Nodes.squeezedPieces_eq_flatMap]
  rfl

/-- The links among the child nodes have the texts that these nodes add. -/
theorem links_flatMap (ns : List Node) :
    ((elementsOf ns).filter fun c => c.tag.isHyperlink).flatMap
        (fun c => c.blankFreeText.toList) =
      (ns.filter Node.isLink).flatMap (Node.squeezed [.ordinary, .cdata]) := by
  induction ns with
  | nil => rfl
  | cons n ns ih =>
      cases n with
      | text kind content => exact ih
      | element tag children =>
          have hcons : elementsOf (.element tag children :: ns) =
            ⟨tag, children⟩ :: elementsOf ns := rfl
          have hnode : Node.isLink (.element tag children) = tag.isHyperlink := rfl
          rw [hcons, List.filter_cons, List.filter_cons]
          by_cases hlink : tag.isHyperlink = true
          · rw [if_pos hlink, if_pos (hnode.trans hlink), List.flatMap_cons, List.flatMap_cons, ih,
              blankFreeText_toList_of_isHyperlink hlink]
            rfl
          · rw [if_neg hlink, if_neg (hnode ▸ hlink), ih]

/-- The text of the links comes from the child nodes that are links. -/
theorem linkText_toList {e : Element} (h : e.name ∉ namesOfOwnKind) :
    e.linkText.toList =
      (e.children.filter Node.isLink).flatMap (Node.squeezed (countedKinds e.name)) := by
  rw [linkText, String.toList_join, List.flatMap_map, countedKinds_of_not_mem h]
  exact links_flatMap e.children

/-- The whole text is longer than that of the links by what the other child nodes add. -/
theorem length_blankFreeText {e : Element} (h : e.name ∉ namesOfOwnKind) :
    e.blankFreeText.length = e.linkText.length +
      ((e.children.filter fun n => !n.isLink).flatMap
        (Node.squeezed (countedKinds e.name))).length := by
  -- the links and the other child nodes are all of them, in another order
  have hperm := (List.filter_append_perm Node.isLink e.children).flatMap_right
    (Node.squeezed (countedKinds e.name))
  rw [List.flatMap_append] at hperm
  rw [← String.length_toList, ← String.length_toList, blankFreeText_toList, linkText_toList h,
    ← hperm.length_eq, List.length_append]

/-- Every text that counts as the element's own is blank, unless it is in a link directly in
the element. -/
def OnlyLinkText (e : Element) : Prop :=
  ∀ n ∈ e.children, n.isLink = false → ∀ kind ∈ countedKinds e.name, ∀ content,
    n.HasText kind content → ∀ c ∈ content.toList, Text.isBlank c = true

theorem length_le_iff_onlyLinkText {e : Element} (h : e.name ∉ namesOfOwnKind) :
    e.blankFreeText.length ≤ e.linkText.length ↔ e.OnlyLinkText := by
  have hlength := length_blankFreeText h
  have hnil : e.blankFreeText.length ≤ e.linkText.length ↔
      (e.children.filter fun n => !n.isLink).flatMap
        (Node.squeezed (countedKinds e.name)) = [] := by
    rw [← List.length_eq_zero_iff]
    omega
  rw [hnil, List.flatMap_eq_nil_iff]
  simp only [Node.squeezed_eq_nil_iff, List.mem_filter, Bool.not_eq_true', and_imp]
  rfl

/-- **A link block is an element all of whose text is link text.** The text of the links is a
part of the whole text in every case, so comparing the lengths is comparing the texts. -/
theorem linkBlock_iff_onlyLinkText (e : Element) (hname : e.name ∉ namesOfOwnKind) :
    e.linkText.toList.Sublist e.blankFreeText.toList ∧
      (e.blankFreeText.length ≤ e.linkText.length ↔ e.blankFreeText = e.linkText) ∧
      (e.blankFreeText.length ≤ e.linkText.length ↔ e.OnlyLinkText) ∧
      ∀ minLinks, e.isLinkBlock minLinks = true ↔
        minLinks ≤ (e.links.length : Int) ∧ e.OnlyLinkText := by
  -- leaving out child nodes leaves a part of what they add, in its order
  have hsub : e.linkText.toList.Sublist e.blankFreeText.toList := by
    rw [blankFreeText_toList, linkText_toList hname]
    exact List.filter_sublist.flatMap _
  refine ⟨hsub, ?_, length_le_iff_onlyLinkText hname, fun minLinks => ?_⟩
  · constructor
    · intro hle
      rw [← String.length_toList, ← String.length_toList] at hle
      exact (String.toList_injective (hsub.eq_of_length_le hle)).symm
    · intro heq
      exact heq ▸ Nat.le_refl _
  · rw [isLinkBlock, Bool.and_eq_true, decide_eq_true_eq, decide_eq_true_eq,
      length_le_iff_onlyLinkText hname]

/-- Two links, one of them with an element in it, and around them a comment, a script and a
blank text. -/
def twoLinks : Element :=
  ⟨⟨.numbered 0, "p", [], none⟩,
    [.element ⟨.numbered 1, "a", [("href", .text "")], none⟩
        [.text .ordinary "Home ", .element ⟨.numbered 2, "b", [], none⟩ [.text .cdata "page"]],
      .text .comment "more", .element ⟨.numbered 3, "script", [], none⟩ [.text .script "run()"],
      .text .ordinary "\n ", .element ⟨.numbered 4, "area", [("href", .text "")], none⟩ []]⟩

/-- It is a link block, so its text is that of its links. -/
theorem linkBlock_iff_onlyLinkText_twoLinks :
    twoLinks.name ∉ namesOfOwnKind ∧ twoLinks.isLinkBlock 2 = true ∧ twoLinks.OnlyLinkText ∧
      twoLinks.blankFreeText = twoLinks.linkText := by
  have hname : twoLinks.name ∉ namesOfOwnKind := by decide
  have hblock : twoLinks.isLinkBlock 2 = true := by decide +kernel
  obtain ⟨-, hequal, honly, hlinks⟩ := linkBlock_iff_onlyLinkText twoLinks hname
  have htext := ((hlinks 2).mp hblock).2
  exact ⟨hname, hblock, htext, hequal.mp (honly.mpr htext)⟩

end Element

end PageLandmarks

import PageLandmarks.Detector
import PageLandmarks.Proofs.Order
import PageLandmarks.Proofs.Tree.Numbering

/-!
# PageLandmarks.Proofs.Page

**Pages just read, and the two order checks.** A page that has just been read is
`Page.Fresh`: it has a single tree without repeated identities, and what it has
settled about its body and its marked elements is what that tree says. So every
identity it has noted is one of an element that it still finds.

The order checks are then told by the tree of the body alone: which of the two
landmarks is read before the other (`Page.navBeforeMain_iff`), and how many
children of the body come before the main content (`Page.mainFirst_eq_false_iff`).
-/

namespace PageLandmarks

/-! ### Places among the children -/

namespace Element

/-- The elements directly in an element, without a head. -/
def contentChildren (b : Element) : List Element :=
  b.elementChildren.filter fun e => e.name != "head"

/-- The element with this identity is directly in `b` and no head, and at least
`count` others of that sort come before it. -/
def Follows (b : Element) (count : Nat) (id : ElementId) : Prop :=
  ∃ before child after, b.contentChildren = before ++ child :: after ∧ child.id = id ∧
    count ≤ before.length

/-- To have others before it is to be left when these are dropped. -/
theorem follows_iff_mem_drop {b : Element} {count : Nat} {id : ElementId} :
    b.Follows count id ↔ id ∈ (b.contentChildren.drop count).map Element.id := by
  constructor
  · rintro ⟨before, child, after, hsplit, rfl, hcount⟩
    rw [hsplit, List.drop_append_of_le_length hcount]
    exact List.mem_map_of_mem (List.mem_append_right _ List.mem_cons_self)
  · intro hmem
    obtain ⟨child, hchild, hid⟩ := List.mem_map.mp hmem
    obtain ⟨before, after, hsplit⟩ := List.append_of_mem hchild
    have hlt : count < b.contentChildren.length := by
      have hlen := congrArg List.length hsplit
      simp only [List.length_drop, List.length_append, List.length_cons] at hlen
      omega
    refine ⟨b.contentChildren.take count ++ before, child, after, ?_, hid, ?_⟩
    · rw [List.append_assoc, ← hsplit, List.take_append_drop]
    · rw [List.length_append, List.length_take]
      omega

instance (b : Element) (count : Nat) (id : ElementId) : Decidable (b.Follows count id) :=
  decidable_of_iff' _ follows_iff_mem_drop

theorem mem_preorder_of_mem_content {b c : Element} (h : c ∈ b.contentChildren) :
    c ∈ b.preorder :=
  mem_preorder_of_mem_children (List.mem_of_mem_filter h)

theorem contentChildren_eq_nil_iff {b : Element} :
    b.contentChildren = [] ↔ ∀ c ∈ b.elementChildren, c.name = "head" := by
  simp [contentChildren, List.filter_eq_nil_iff]

theorem Distinct.content_nodup {b : Element} (h : b.Distinct) :
    (b.contentChildren.map Element.id).Nodup :=
  h.children_nodup.sublist (List.Sublist.map _ List.filter_sublist)

end Element

/-- Where identities are not repeated, the place of an element is the number of
those before it. -/
theorem findIdx?_id_append {before after : List Element} {c : Element}
    (hnd : ((before ++ c :: after).map Element.id).Nodup) :
    (before ++ c :: after).findIdx? (fun e => e.id == c.id) = some before.length := by
  rw [List.map_append, List.map_cons] at hnd
  have hbefore : before.findIdx? (fun e => e.id == c.id) = none := by
    rw [List.findIdx?_eq_none_iff]
    intro e he
    have hne : e.id ≠ c.id := fun hid =>
      List.disjoint_of_nodup_append hnd (List.mem_map_of_mem he) (hid ▸ List.mem_cons_self)
    simpa using hne
  rw [List.findIdx?_append, hbefore, List.findIdx?_cons]
  simp

theorem Element.Distinct.follows_iff {b : Element} (h : b.Distinct) {count : Nat}
    {id : ElementId} :
    b.Follows count id ↔
      ∃ i, b.contentChildren.findIdx? (fun e => e.id == id) = some i ∧ count ≤ i := by
  have hnd := h.content_nodup
  constructor
  · rintro ⟨before, child, after, hsplit, rfl, hcount⟩
    rw [hsplit] at hnd ⊢
    exact ⟨before.length, findIdx?_id_append hnd, hcount⟩
  · rintro ⟨i, hi, hcount⟩
    -- the index only says that there is such a child; the split then gives it back
    obtain ⟨child, hmem, hid⟩ : ∃ c ∈ b.contentChildren, c.id = id := by
      obtain ⟨hlt, hid, -⟩ := List.findIdx?_eq_some_iff_getElem.mp hi
      exact ⟨_, List.getElem_mem hlt, by simpa using hid⟩
    obtain ⟨before, after, hsplit⟩ := List.append_of_mem hmem
    subst hid
    rw [hsplit] at hnd hi
    obtain rfl := Option.some.inj ((findIdx?_id_append hnd).symm.trans hi)
    exact ⟨before, child, after, hsplit, rfl, hcount⟩

/-! ### The order checks -/

/-- The navigation is out of order: it is outside the body `b`, or `b` reads the
main content before it. -/
def Element.Misplaces (b : Element) (main nav : ElementId) : Prop :=
  ¬ b.Holds nav ∨ b.Reads main nav

instance (b : Element) (main nav : ElementId) : Decidable (b.Misplaces main nav) :=
  inferInstanceAs (Decidable (_ ∨ _))

namespace Page

section Checks

variable {p : Page} {b : Element}

theorem bodyChildren_eq (hb : p.bodyElement? = some b) : p.bodyChildren = b.contentChildren := by
  rw [bodyChildren, hb]; rfl

/-- The navigation counts as coming first unless the body has it out of order. -/
theorem navBeforeMain_iff (hb : p.bodyElement? = some b) (hd : b.Distinct)
    (main nav : ElementId) :
    p.navBeforeMain (some main) (some nav) = true ↔ ¬ b.Misplaces main nav := by
  rw [navBeforeMain, hb, beq_iff_eq, hd.compareOrder_eq_first_iff, Element.Misplaces, not_or,
    not_not]

/-- The place of the main content is objected to if it is a child of the body with
another before it, or with two beside a navigation. -/
theorem mainFirst_eq_false_iff (hb : p.bodyElement? = some b) (hd : b.Distinct)
    (main : ElementId) (navExists : Bool) :
    p.mainFirst (some main) navExists = false ↔ b.Follows (if navExists then 2 else 1) main := by
  rw [hd.follows_iff, ← bodyChildren_eq hb, mainFirst]
  simp only [siblingIndex?, Option.bind_some]
  cases p.bodyChildren.findIdx? fun e => e.id == main with
  | none => simp
  | some i => cases navExists <;> simp <;> omega

end Checks

/-! ### Pages just read -/

/-- The page is as it was when it was read. -/
structure Fresh (p : Page) : Prop where
  /-- No identity occurs twice. -/
  distinct : p.document.Distinct
  /-- Nothing has been taken out. -/
  detached : p.document.detached = []
  /-- The root has an identity of its own. -/
  root_id : p.document.root.id = .root
  /-- The body is the one that the document has. -/
  body : p.body = bodyOf p.document
  /-- The main content elements are those that the document marks. -/
  mains : p.mains = marked p.document .main
  /-- The navigation elements are those that the document marks. -/
  navigations : p.navigations = marked p.document .navigation

/-- What is read is the page of a document. -/
theorem read_eq_ok {reader : ReaderChoice} {html : String} {p : Page}
    (h : read reader html = .ok p) :
    ∃ d, Document.parse html = .ok d ∧ p = ofDocument html d := by
  unfold read at h
  cases hreader : checkReader reader with
  | error e => rw [hreader] at h; exact absurd h (by simp [bind, Except.bind])
  | ok _ =>
      rw [hreader] at h
      cases hparse : Document.parse html with
      | error e => rw [hparse] at h; cases h
      | ok d =>
          rw [hparse] at h
          exact ⟨d, rfl, (Except.ok.inj h).symm⟩

theorem fresh_of_read {reader : ReaderChoice} {html : String} {p : Page}
    (h : read reader html = .ok p) : p.Fresh := by
  obtain ⟨d, hparse, rfl⟩ := read_eq_ok h
  obtain ⟨hroot, hdetached, -⟩ := Document.parse_numbered hparse
  have hroot_id : d.root.id = .root := by rw [Element.id, hroot]; rfl
  exact ⟨Document.parse_distinct hparse, hdetached, hroot_id, rfl, rfl, rfl⟩

namespace Fresh

variable {p : Page}

/-- A page just read finds exactly the elements of its tree, by their
identities. -/
theorem find?_eq_some_iff (h : p.Fresh) {id : ElementId} {e : Element} :
    p.find? id = some e ↔ e ∈ p.document.root.preorder ∧ e.id = id := by
  have htrees : preorders p.document.trees = p.document.root.preorder := by
    rw [Document.trees, h.detached, preorders_cons, preorders_nil, List.append_nil]
  rw [find?, h.distinct.find?_eq_some_iff, htrees]

theorem find?_of_mem (h : p.Fresh) {e : Element} (he : e ∈ p.document.root.preorder) :
    p.find? e.id = some e :=
  h.find?_eq_some_iff.mpr ⟨he, rfl⟩

/-- Different elements of the document are different by their identities. -/
theorem elements_nodup (h : p.Fresh) : p.document.elements.Nodup := by
  have hids := h.distinct.root
  rw [Element.Distinct, Element.ids, Document.root_preorder] at hids
  exact (List.nodup_cons.mp hids.of_map).2

theorem firstNamed?_mem {d : Document} {name : String} {id : ElementId}
    (h : firstNamed? d name = some id) : ∃ e ∈ d.root.preorder, e.id = id := by
  obtain ⟨e, hfind, hid⟩ := Option.map_eq_some_iff.mp h
  exact ⟨e, List.mem_cons_of_mem _ (List.mem_of_find?_eq_some hfind), hid⟩

/-- The page has a body: an element of the tree or its root. -/
theorem exists_body (h : p.Fresh) : ∃ b, p.bodyElement? = some b := by
  suffices hbody : ∃ b ∈ p.document.root.preorder, b.id = p.body by
    obtain ⟨b, hmem, hid⟩ := hbody
    exact ⟨b, h.find?_eq_some_iff.mpr ⟨hmem, hid⟩⟩
  rw [h.body, bodyOf]
  cases hnamed : firstNamed? p.document "body" with
  | some id => exact firstNamed?_mem hnamed
  | none =>
      cases hhtml : firstNamed? p.document "html" with
      | some id => exact firstNamed?_mem hhtml
      | none => exact ⟨p.document.root, p.document.root.mem_preorder_self, h.root_id⟩

theorem body_mem (h : p.Fresh) {b : Element} (hbody : p.bodyElement? = some b) :
    b ∈ p.document.root.preorder :=
  (h.find?_eq_some_iff.mp hbody).1

theorem body_distinct (h : p.Fresh) {b : Element} (hbody : p.bodyElement? = some b) :
    b.Distinct :=
  h.distinct.root.subtree (h.body_mem hbody)

end Fresh

end Page

/-- A run that ends well with a value of some property has such a value. -/
theorem exists_ok_of_any {ε α : Type} {x : Except ε α} {q : α → Bool}
    (h : x.toOption.any q = true) : ∃ v, x = .ok v ∧ q v = true := by
  cases x with
  | error e => exact absurd h Bool.false_ne_true
  | ok v => exact ⟨v, rfl, h⟩

end PageLandmarks

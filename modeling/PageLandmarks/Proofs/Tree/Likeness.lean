import Mathlib.Data.List.Forall2
import PageLandmarks.Detector
import PageLandmarks.Proofs.Tree.Subtree

/-!
# PageLandmarks.Proofs.Tree.Likeness

**Trees that differ in their layout only.** `Nodes.Alike` relates two lists of nodes
with the same elements, matched one to one, whose texts differ by blanks, and one of
which may have comments and blank texts that the other has not. What the search for
the navigation looks at is the same on both sides: the elements directly in an
element (`Nodes.Alike.elementsOf`), all of them in reading order
(`Nodes.Alike.elements`), and the text of an element without its blanks
(`Element.Alike.blankFreeText_eq`).

So two scans run in step. The queues hold elements that match one to one, and a pair
taken from the front is a pair of link blocks or a pair of which neither is one
(`scan_alike`).
-/

namespace PageLandmarks

/-! ### The relation -/

/-- A matching of the elements of one document with those of another: no two of them
go to the same one, and the root goes to the root. -/
structure Matching where
  /-- The identity that an element has on the other side. -/
  image : ElementId → ElementId
  /-- Different elements stay different. -/
  injective : Function.Injective image
  /-- The root has the same identity everywhere. -/
  image_root : image .root = .root

/-- The matching of a document with one that has the same identities. -/
def Matching.refl : Matching := ⟨id, Function.injective_id, rfl⟩

/-- The tags of two elements that match. Their lines may differ. -/
structure Tag.Matches (μ : Matching) (t t' : Tag) : Prop where
  /-- The identities are matched. -/
  id : t'.id = μ.image t.id
  /-- The names are the same. -/
  name : t'.name = t.name
  /-- The attributes are the same. -/
  attrs : t'.attrs = t.attrs

/-- A piece of text that is layout and nothing else: a comment, or blanks. -/
def IsLayout (kind : TextKind) (content : String) : Prop :=
  kind = .comment ∨ Text.squeeze content.toList = []

/-- The nodes differ in their layout only. -/
inductive Nodes.Alike (μ : Matching) : List Node → List Node → Prop
  | nil : Nodes.Alike μ [] []
  /-- Blanks in a text do not matter. -/
  | text {kind : TextKind} {content content' : String} {ns ms : List Node}
      (hcontent : Text.squeeze content'.toList = Text.squeeze content.toList)
      (hrest : Nodes.Alike μ ns ms) :
      Nodes.Alike μ (.text kind content :: ns) (.text kind content' :: ms)
  /-- The first list may have a comment or a blank text of its own. -/
  | left {kind : TextKind} {content : String} {ns ms : List Node}
      (hlayout : IsLayout kind content) (hrest : Nodes.Alike μ ns ms) :
      Nodes.Alike μ (.text kind content :: ns) ms
  /-- So may the second. -/
  | right {kind : TextKind} {content : String} {ns ms : List Node}
      (hlayout : IsLayout kind content) (hrest : Nodes.Alike μ ns ms) :
      Nodes.Alike μ ns (.text kind content :: ms)
  /-- Elements match together with what they contain. -/
  | element {tag tag' : Tag} {children children' ns ms : List Node}
      (htag : tag.Matches μ tag') (hchildren : Nodes.Alike μ children children')
      (hrest : Nodes.Alike μ ns ms) :
      Nodes.Alike μ (.element tag children :: ns) (.element tag' children' :: ms)

/-- Two elements match and their content differs in its layout only. -/
structure Element.Alike (μ : Matching) (e e' : Element) : Prop where
  /-- The tags match. -/
  tag : e.tag.Matches μ e'.tag
  /-- The content differs in its layout only. -/
  children : Nodes.Alike μ e.children e'.children

variable {μ : Matching}

/-! ### Tags -/

namespace Tag.Matches

variable {t t' : Tag}

theorem attr?_eq (h : t.Matches μ t') (name : String) : t'.attr? name = t.attr? name := by
  rw [Tag.attr?, h.attrs]; rfl

theorem marks_eq (h : t.Matches μ t') (landmark : Landmark) :
    t'.marks landmark = t.marks landmark := by
  rw [Tag.marks, Tag.marks, h.name, h.attr?_eq]

theorem isHyperlink_eq (h : t.Matches μ t') : t'.isHyperlink = t.isHyperlink := by
  rw [Tag.isHyperlink, Tag.isHyperlink, h.name, h.attr?_eq]

theorem isScript_eq (h : t.Matches μ t') : t'.isScript = t.isScript := by
  rw [Tag.isScript, Tag.isScript, h.name]

theorem label_eq (h : t.Matches μ t') : t'.label = t.label := by
  rw [Tag.label, Tag.label, h.name, h.attr?_eq, h.attr?_eq]

end Tag.Matches

theorem Element.Alike.id_eq {e e' : Element} (h : e.Alike μ e') : e'.id = μ.image e.id := h.tag.id

theorem Element.Alike.name_eq {e e' : Element} (h : e.Alike μ e') : e'.name = e.name := h.tag.name

/-- An identity is that of an element exactly if their images agree. -/
theorem Element.Alike.id_beq {e e' : Element} (h : e.Alike μ e') (id : ElementId) :
    (e'.id == μ.image id) = (e.id == id) := by
  rw [h.id_eq, Bool.eq_iff_iff, beq_iff_eq, beq_iff_eq]
  exact μ.injective.eq_iff

/-! ### Elements -/

/-- Texts are no elements, so the elements directly in the nodes match. -/
theorem Nodes.Alike.elementsOf {ns ms : List Node} (h : Nodes.Alike μ ns ms) :
    List.Forall₂ (Element.Alike μ) (elementsOf ns) (elementsOf ms) := by
  induction h with
  | nil => exact .nil
  | text _ _ ih => exact ih
  | left _ _ ih => exact ih
  | right _ _ ih => exact ih
  | element htag hchildren _ _ ih => exact .cons ⟨htag, hchildren⟩ ih

/-- All elements of the nodes match, in reading order. -/
theorem Nodes.Alike.elements {ns ms : List Node} (h : Nodes.Alike μ ns ms) :
    List.Forall₂ (Element.Alike μ) (Nodes.elements ns) (Nodes.elements ms) := by
  induction h with
  | nil => exact .nil
  | text _ _ ih => exact ih
  | left _ _ ih => exact ih
  | right _ _ ih => exact ih
  | element htag hchildren _ ihchildren ih =>
      exact List.rel_append (.cons ⟨htag, hchildren⟩ ihchildren) ih

theorem Element.Alike.elementChildren {e e' : Element} (h : e.Alike μ e') :
    List.Forall₂ (Element.Alike μ) e.elementChildren e'.elementChildren :=
  h.children.elementsOf

theorem Element.Alike.preorder {e e' : Element} (h : e.Alike μ e') :
    List.Forall₂ (Element.Alike μ) e.preorder e'.preorder :=
  .cons h h.children.elements

theorem preorders_alike {es es' : List Element} (h : List.Forall₂ (Element.Alike μ) es es') :
    List.Forall₂ (Element.Alike μ) (preorders es) (preorders es') :=
  List.rel_flatMap h fun _ _ => Element.Alike.preorder

/-! ### Text -/

/-- The characters of pieces of text without the blanks. -/
def squeezedPieces (pieces : List String) : List Char :=
  pieces.flatMap fun s => Text.squeeze s.toList

theorem squeeze_join (pieces : List String) :
    Text.squeeze (String.join pieces).toList = squeezedPieces pieces := by
  rw [String.toList_join, Text.squeeze, List.filter_flatMap]
  rfl

theorem inside?_ne_comment (name : String) : TextKind.inside? name ≠ some .comment := by
  intro h
  obtain ⟨before, after, hentries, -⟩ := List.lookup_eq_some_iff.mp h
  have hmem : (name, TextKind.comment) ∈ before ++ (name, TextKind.comment) :: after := by simp
  rw [← hentries] at hmem
  simp at hmem

/-- No element counts comments as its text. -/
theorem comment_not_counted (name : String) : (countedKinds name).contains .comment = false := by
  unfold countedKinds
  split
  · rename_i kind hkind
    have hne : TextKind.comment ≠ kind := fun h => inside?_ne_comment name (h ▸ hkind)
    simpa using hne
  · rfl

/-- Layout leaves nothing of a text that counts. -/
theorem IsLayout.squeezedPieces_eq_nil {kind : TextKind} {content : String}
    (h : IsLayout kind content) {kinds : List TextKind}
    (hkinds : kinds.contains .comment = false) :
    squeezedPieces (Node.pieces kinds (.text kind content)) = [] := by
  rw [Node.pieces]
  rcases h with rfl | hblank
  · rw [hkinds]; rfl
  · split
    · simpa [squeezedPieces] using hblank
    · rfl

/-- The texts of kinds other than comments are the same without their blanks. -/
theorem Nodes.Alike.squeezedPieces_eq {kinds : List TextKind}
    (hkinds : kinds.contains .comment = false) {ns ms : List Node} (h : Nodes.Alike μ ns ms) :
    squeezedPieces (Nodes.pieces kinds ms) = squeezedPieces (Nodes.pieces kinds ns) := by
  have hcons : ∀ (n : Node) (ns : List Node), squeezedPieces (Nodes.pieces kinds (n :: ns)) =
      squeezedPieces (n.pieces kinds) ++ squeezedPieces (Nodes.pieces kinds ns) := fun n ns => by
    rw [Nodes.pieces, squeezedPieces, List.flatMap_append]; rfl
  induction h with
  | nil => rfl
  | text hcontent _ ih =>
      rw [hcons, hcons, ih, Node.pieces, Node.pieces]
      congr 1
      split
      · simpa [squeezedPieces] using hcontent
      · rfl
  | left hlayout _ ih => rw [hcons, ih, hlayout.squeezedPieces_eq_nil hkinds, List.nil_append]
  | right hlayout _ ih => rw [hcons, ih, hlayout.squeezedPieces_eq_nil hkinds, List.nil_append]
  | element _ _ _ ihchildren ih => rw [hcons, hcons, ih, Node.pieces, Node.pieces, ihchildren]

namespace Element.Alike

variable {e e' : Element}

/-- Matching elements have the same text but for its blanks. -/
theorem blankFreeText_eq (h : e.Alike μ e') : e'.blankFreeText = e.blankFreeText := by
  rw [Element.blankFreeText, Element.blankFreeText, Element.text, Element.text, squeeze_join,
    squeeze_join, h.name_eq, h.children.squeezedPieces_eq (comment_not_counted e.name)]

theorem links (h : e.Alike μ e') : List.Forall₂ (Element.Alike μ) e.links e'.links :=
  List.rel_filter (fun _ _ hc => by simp only [hc.tag.isHyperlink_eq]) h.elementChildren

theorem linkText_eq (h : e.Alike μ e') : e'.linkText = e.linkText := by
  have htexts : e.links.map Element.blankFreeText = e'.links.map Element.blankFreeText :=
    List.forall₂_eq_eq_eq ▸ List.rel_map (fun _ _ hc => hc.blankFreeText_eq.symm) h.links
  rw [Element.linkText, Element.linkText, htexts]

/-- Of two matching elements both are link blocks or neither is. -/
theorem isLinkBlock_eq (h : e.Alike μ e') (minLinks : Int) :
    e'.isLinkBlock minLinks = e.isLinkBlock minLinks := by
  rw [Element.isLinkBlock, Element.isLinkBlock, h.links.length_eq, h.blankFreeText_eq,
    h.linkText_eq]

end Element.Alike

/-! ### Two scans in step -/

theorem scan_of_toList_nil {minLinks : Int} {q : Queue Element} (h : q.toList = []) :
    scan minLinks q = none := by
  unfold scan
  split
  · rfl
  · rename_i hpop
    rw [Queue.toList_eq_cons_of_pop? hpop] at h
    cases h

/-- One step of a scan: the element at the front is the one looked for, or its
children go to the back. -/
theorem scan_of_toList_cons (minLinks : Int) {q : Queue Element} {e : Element}
    {es : List Element} (h : q.toList = e :: es) :
    ∃ rest : Queue Element, rest.toList = es ∧
      scan minLinks q = if e.isLinkBlock minLinks then some e
        else scan minLinks (rest.pushAll e.elementChildren) := by
  rw [scan.eq_def minLinks q]
  split
  · rename_i hpop
    rw [Queue.toList_eq_nil_of_pop? hpop] at h
    cases h
  · rename_i f rest hpop
    rw [Queue.toList_eq_cons_of_pop? hpop] at h
    obtain ⟨rfl, rfl⟩ := List.cons.inj h
    exact ⟨rest, rfl, rfl⟩

/-- Scans of queues with matching elements come upon matching elements. -/
theorem scan_alike (minLinks : Int) {q q' : Queue Element}
    (h : List.Forall₂ (Element.Alike μ) q.toList q'.toList) :
    Option.Rel (Element.Alike μ) (scan minLinks q) (scan minLinks q') := by
  fun_induction scan minLinks q generalizing q' with
  | case1 q hpop =>
      rw [Queue.toList_eq_nil_of_pop? hpop, List.forall₂_nil_left_iff] at h
      rw [scan_of_toList_nil h]
      exact .none
  | case2 q e rest hpop hblock =>
      rw [Queue.toList_eq_cons_of_pop? hpop, List.forall₂_cons_left_iff] at h
      obtain ⟨e', es', he, -, hq'⟩ := h
      obtain ⟨rest', -, hscan⟩ := scan_of_toList_cons minLinks hq'
      rw [hscan, he.isLinkBlock_eq, if_pos hblock]
      exact .some he
  | case3 q e rest hpop hblock ih =>
      rw [Queue.toList_eq_cons_of_pop? hpop, List.forall₂_cons_left_iff] at h
      obtain ⟨e', es', he, hes, hq'⟩ := h
      obtain ⟨rest', hrest', hscan⟩ := scan_of_toList_cons minLinks hq'
      rw [hscan, he.isLinkBlock_eq, if_neg hblock]
      refine ih ?_
      rw [Queue.toList_pushAll, Queue.toList_pushAll, hrest']
      exact List.rel_append hes he.elementChildren

end PageLandmarks

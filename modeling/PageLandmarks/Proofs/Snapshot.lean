import PageLandmarks.Proofs.Audit
import PageLandmarks.Proofs.Traversal
import PageLandmarks.Proofs.Tree.Edits

/-!
# PageLandmarks.Proofs.Snapshot

**What was settled when a page was read stays settled.** Edits change the document of a
page and nothing else, so the body and the marked elements are those that the document had
at first. One marked element is the landmark from then on, in a tree of its own or without
its mark; of several none ever is; and where nothing was marked, the landmark is inferred
from the tree as it is now, even if elements have been marked since
(`Page.edits_leave_snapshot`).

The walks see the document as it is now. They work after any edits as they do on a page
just read, because no edit brings an element into the trees twice
(`Document.Sound.foldl_apply`).
-/

namespace PageLandmarks

/-- What is found on the page `q` as a landmark is told by the marks of the document `d`
that was read at first, and by what can be inferred now if there were none. -/
structure Document.Settles (d : Document) (q : Page) (landmark : Landmark)
    (found : Option ElementId) (inferred : Option Element) : Prop where
  /-- The one marked element is found, and the page still has it. -/
  one : ∀ e, d.OnlyMarked landmark e → found = some e.id ∧ ∃ e', q.find? e.id = some e'
  /-- Of several marked elements none is found. -/
  several : ∀ e ∈ d.elements, ∀ f ∈ d.elements, e ≠ f →
    e.tag.marks landmark = true → f.tag.marks landmark = true → found = none
  /-- Without a marked element, what can be inferred is found. -/
  unmarked : d.Unmarked landmark → found = inferred.map Element.id

/-- The walks through the trees of a page come by no element twice. -/
structure Page.Walkable (q : Page) : Prop where
  /-- No element is in the trees twice. -/
  distinct : q.document.Distinct
  /-- The comparison from any element on goes through its reading order, which has no
  element twice. -/
  compare : ∀ r ∈ preorders q.document.trees, r.Distinct ∧
    ∀ first second, compareOrder (some r) first second = firstOf first second r.ids
  /-- The scan from children of any element on goes through the levels, which have no
  element twice. -/
  scan : ∀ r ∈ preorders q.document.trees, ∀ es, es.Sublist r.elementChildren →
    ((levelOrder es).map Element.id).Nodup ∧
      ∀ minLinks, scan minLinks (.ofList es) =
        (levelOrder es).find? fun e => e.isLinkBlock minLinks

theorem compareOrder_eq_firstOf (r : Element) (first second : Option ElementId) :
    compareOrder (some r) first second = firstOf first second r.ids := by
  rw [compareOrder, walk_eq_firstOf, Option.toList_some, preorders_cons, preorders_nil,
    List.append_nil]
  rfl

namespace Page

/-- The page after a sequence of edits. -/
def editAll (p : Page) (edits : List Edit) : Page := edits.foldl edit p

/-- Edits change the document and nothing else. -/
theorem editAll_eq (p : Page) (edits : List Edit) :
    p.editAll edits = { p with document := edits.foldl Document.apply p.document } := by
  induction edits generalizing p with
  | nil => rfl
  | cons e edits ih => exact ih (p.edit e)

theorem walkable_of_sound {q : Page} (h : q.document.Sound) : q.Walkable where
  distinct := h.distinct
  compare := by
    intro r hr
    exact ⟨h.distinct.subtree hr, compareOrder_eq_firstOf r⟩
  scan := by
    intro r hr es hes
    refine ⟨(h.distinct.subtree hr).levelOrder_nodup hes, fun minLinks => ?_⟩
    rw [scan_eq_find?_levelOrder, Queue.toList_ofList]

/-- A page that has been read and then edited is sound, and has all the elements that it had
at first. -/
theorem editAll_sound {reader : ReaderChoice} {html : String} {p : Page}
    (hread : read reader html = .ok p) (edits : List Edit) :
    (p.editAll edits).document.Sound ∧ p.document.ids ⊆ (p.editAll edits).document.ids := by
  have hsound : p.document.Sound := by
    obtain ⟨d, hparse, rfl⟩ := read_eq_ok hread
    exact Document.parse_sound hparse
  rw [editAll_eq]
  exact hsound.foldl_apply edits

/-- The body is still found, wherever it is now. -/
theorem exists_body_editAll {reader : ReaderChoice} {html : String} {p : Page}
    (hread : read reader html = .ok p) (edits : List Edit) :
    ∃ b, (p.editAll edits).bodyElement? = some b := by
  obtain ⟨b, hbody⟩ := (fresh_of_read hread).exists_body
  have hid := (editAll_sound hread edits).2 (Document.exists_find?_iff.mp ⟨b, hbody⟩)
  rw [editAll_eq] at hid ⊢
  exact Document.exists_find?_iff.mpr hid

/-- Below the body no identity occurs twice, wherever the body is now, and the page finds the
children of the body by their identities. -/
theorem body_editAll {reader : ReaderChoice} {html : String} {p : Page} {b : Element}
    (hread : read reader html = .ok p) (edits : List Edit)
    (hbody : (p.editAll edits).bodyElement? = some b) :
    b.Distinct ∧ ∀ c ∈ b.contentChildren, (p.editAll edits).find? c.id = some c := by
  have hdistinct := (editAll_sound hread edits).1.distinct
  have hmem := (hdistinct.find?_eq_some_iff.mp hbody).1
  refine ⟨hdistinct.subtree hmem, fun c hc => ?_⟩
  obtain ⟨t, ht, hbt⟩ := List.mem_flatMap.mp hmem
  have hct : c ∈ t.preorder :=
    (Element.preorder_block hbt).subset (Element.mem_preorder_of_mem_content hc)
  exact hdistinct.find?_eq_some_iff.mpr ⟨List.mem_flatMap.mpr ⟨t, ht, hct⟩, rfl⟩

namespace Fresh

variable {p q : Page} {landmark : Landmark} {found : Option ElementId}
  {inferred : Option Element}

/-- What is chosen from the marks of a page just read is settled, as long as the page keeps
its elements. -/
theorem settles (h : p.Fresh) (hsubset : p.document.ids ⊆ q.document.ids)
    (hfound : found = (chosen (p.document.markedAs landmark) inferred).map Element.id) :
    p.document.Settles q landmark found inferred where
  one := by
    intro e honly
    have hmarked := (Document.markedAs_eq_singleton_iff h.elements_nodup).mpr honly
    refine ⟨by rw [hfound, hmarked]; rfl, ?_⟩
    have he : p.find? e.id = some e := h.find?_of_mem (List.mem_cons_of_mem _ honly.1)
    exact Document.exists_find?_iff.mpr (hsubset (Document.exists_find?_iff.mp ⟨e, he⟩))
  several := by
    intro e he f hf hne hem hfm
    rw [hfound, Document.chosen_eq_none_of_two he hf hne hem hfm]
    rfl
  unmarked := by
    intro hnone
    rw [hfound, Document.markedAs_eq_nil_iff.mpr hnone]
    rfl

end Fresh

/-- **The snapshot of a page is stable under any edits**: its body, its marked elements and
what follows from them for the landmarks. No edit makes a walk come by an element twice. -/
theorem edits_leave_snapshot {reader : ReaderChoice} {html : String} {p : Page}
    (hread : read reader html = .ok p) (edits : List Edit) :
    (p.editAll edits).body = p.body ∧ (p.editAll edits).mains = p.mains ∧
      (p.editAll edits).navigations = p.navigations ∧
      ∃ b, (p.editAll edits).bodyElement? = some b ∧
        p.document.Settles (p.editAll edits) .main (Detector.main (p.editAll edits)).id?
          (longest? b.contentChildren) ∧
        (∀ detector : Detector, p.document.Settles (p.editAll edits) .navigation
          (detector.navigation (p.editAll edits)).id? (scanned b detector)) ∧
        (p.editAll edits).Walkable := by
  have hfresh := fresh_of_read hread
  have hsound : p.document.Sound := by
    obtain ⟨d, hparse, rfl⟩ := read_eq_ok hread
    exact Document.parse_sound hparse
  obtain ⟨hsound', hsubset⟩ := hsound.foldl_apply edits
  rw [editAll_eq]
  refine ⟨rfl, rfl, rfl, ?_⟩
  obtain ⟨b, hbody⟩ := hfresh.exists_body
  obtain ⟨b', hbody'⟩ := Document.exists_find?_iff.mpr
    (hsubset (Document.exists_find?_iff.mp ⟨b, hbody⟩))
  have hchildren : bodyChildren { p with document := edits.foldl Document.apply p.document } =
      b'.contentChildren := bodyChildren_eq hbody'
  refine ⟨b', hbody', ?_, fun detector => ?_, walkable_of_sound hsound'⟩
  · refine hfresh.settles hsubset ?_
    rw [Detector.main, hchildren, hfresh.mains]
    exact detect_id? _ _
  · refine hfresh.settles hsubset ?_
    rw [Detector.navigation, hchildren, hfresh.navigations]
    exact detect_id? _ _

/-- A page whose main content is marked loses the mark, loses the element, and gets another
marked one. -/
def remarking : List Edit :=
  [.setAttr (.numbered 0) "role" (.text ""), .extract (.numbered 0), .append .root "main" [] none]

/-- After these edits the main content is still the element that was marked at first. -/
theorem edits_leave_lone_main :
    ∃ p e e', read .any "<p role='main'></p><p></p>" = .ok p ∧ p.document.OnlyMarked .main e ∧
      (Detector.main (p.editAll remarking)).id? = some e.id ∧
      (p.editAll remarking).find? e.id = some e' := by
  obtain ⟨p, hread, hmarked⟩ : ∃ p, read .any "<p role='main'></p><p></p>" = .ok p ∧
      decide ((p.document.markedAs .main).length = 1) = true :=
    exists_ok_of_any (by decide +kernel)
  obtain ⟨e, he⟩ := List.length_eq_one_iff.mp (of_decide_eq_true hmarked)
  have honly := (Document.markedAs_eq_singleton_iff (fresh_of_read hread).elements_nodup).mp he
  obtain ⟨-, -, -, b, -, hmain, -⟩ := edits_leave_snapshot hread remarking
  obtain ⟨hfound, e', he'⟩ := hmain.one e honly
  exact ⟨p, e, e', hread, honly, hfound, he'⟩

end Page

end PageLandmarks

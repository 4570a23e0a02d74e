import PageLandmarks.Proofs.Snapshot

/-!
# PageLandmarks.Proofs.Comparison

**What a comparison of two elements says.** The walk decides by the places of the two in the
reading order of its search root (`compareOrder_decides`): by identity, so elements that look
the same are told apart, and whether or not the two are given, are the same, or are there at
all. A run of the walk is also given with the elements that it visits (`Walks`), which are
the beginning of the reading order.

The tree of an element is one block of the reading order of everything above it. As long as
both elements are in that block, nothing outside of it has a part in the verdict, so it is
the same from every root further up (`compareOrder_from_above`).
-/

namespace PageLandmarks

/-! ### Places in a listing -/

/-- What can be met on a walk from `root`, in reading order. Under no root there is nothing,
and a target that is not given is never met. -/
def listing (root : Option Element) : List (Option ElementId) :=
  (preorders root.toList).map fun e => some e.id

theorem listing_some (r : Element) : listing (some r) = r.ids.map some := by
  simp [listing, Element.ids]

/-- The verdict on two targets is the one that their places in a list tell. -/
structure Verdict.ByPlace (verdict : Verdict) (list : List (Option ElementId))
    (first second : Option ElementId) : Prop where
  /-- The first target is there, and the second is not there or not before it. -/
  first_iff : verdict = .first ↔
    first ∈ list ∧ (second ∉ list ∨ ¬ list.idxOf second < list.idxOf first)
  /-- The second target is there, and the first is not there or after it. -/
  second_iff : verdict = .second ↔
    second ∈ list ∧ (first ∉ list ∨ list.idxOf second < list.idxOf first)
  /-- Neither target is there. -/
  neither_iff : verdict = .neither ↔ first ∉ list ∧ second ∉ list

namespace Verdict.ByPlace

variable {list : List (Option ElementId)} {first second : Option ElementId}

/-- In front of the list there is something that is neither target. -/
theorem cons {verdict : Verdict} {x : Option ElementId} (hfirst : first ≠ x)
    (hsecond : second ≠ x) (h : verdict.ByPlace list first second) :
    verdict.ByPlace (x :: list) first second where
  first_iff := by
    rw [h.first_iff, List.idxOf_cons_ne list hfirst.symm, List.idxOf_cons_ne list hsecond.symm]
    simp [hfirst, hsecond]
  second_iff := by
    rw [h.second_iff, List.idxOf_cons_ne list hfirst.symm, List.idxOf_cons_ne list hsecond.symm]
    simp [hfirst, hsecond]
  neither_iff := by
    rw [h.neither_iff]
    simp [hfirst, hsecond]

end Verdict.ByPlace

/-- Whichever target is met first in a list decides by its place there. -/
theorem firstOf_byPlace (first second : Option ElementId) (ids : List ElementId) :
    (firstOf first second ids).ByPlace (ids.map some) first second := by
  induction ids with
  | nil => constructor <;> simp [firstOf]
  | cons id ids ih =>
      rw [firstOf, List.map_cons]
      by_cases hfirst : first = some id
      · subst hfirst
        rw [if_pos rfl]
        constructor <;> simp
      · rw [if_neg hfirst]
        by_cases hsecond : second = some id
        · subst hsecond
          rw [if_pos rfl]
          -- the place of the first target is not 0, wherever it is
          have hplace := List.idxOf_cons_ne (ids.map some) (Ne.symm hfirst)
          constructor <;> simp [hplace]
        · rw [if_neg hsecond]
          exact ih.cons hfirst hsecond

theorem compareOrder_byPlace (root : Option Element) (first second : Option ElementId) :
    (compareOrder root first second).ByPlace (listing root) first second := by
  have hlisting : listing root = ((preorders root.toList).map Element.id).map some := by
    rw [List.map_map]
    rfl
  rw [compareOrder, walk_eq_firstOf, hlisting]
  exact firstOf_byPlace first second _

/-! ### Runs of the walk -/

/-- A run of the walk from a stack: the elements that it visits, one after another, and its
verdict. -/
inductive Walks (first second : Option ElementId) :
    List Element → List Element → Verdict → Prop
  /-- There is nothing left to visit. -/
  | done : Walks first second [] [] .neither
  /-- The element visited is the first target. -/
  | first {e : Element} {rest : List Element} (hfirst : first = some e.id) :
      Walks first second (e :: rest) [e] .first
  /-- It is the second target, and not the first. -/
  | second {e : Element} {rest : List Element} (hfirst : first ≠ some e.id)
      (hsecond : second = some e.id) : Walks first second (e :: rest) [e] .second
  /-- It is neither, and its children are visited next. -/
  | next {e : Element} {rest visited : List Element} {verdict : Verdict}
      (hfirst : first ≠ some e.id) (hsecond : second ≠ some e.id)
      (hrest : Walks first second (e.elementChildren ++ rest) visited verdict) :
      Walks first second (e :: rest) (e :: visited) verdict

section Runs

variable {first second : Option ElementId} {stack visited : List Element} {verdict : Verdict}

/-- The walk has a run, which ends. -/
theorem exists_walks (first second : Option ElementId) (stack : List Element) :
    ∃ visited, Walks first second stack visited (walk first second stack) := by
  fun_induction walk first second stack with
  | case1 => exact ⟨[], .done⟩
  | case2 e rest hfirst => exact ⟨[e], .first hfirst⟩
  | case3 e rest hfirst hsecond => exact ⟨[e], .second hfirst hsecond⟩
  | case4 e rest hfirst hsecond ih =>
      obtain ⟨visited, hwalks⟩ := ih
      exact ⟨e :: visited, .next hfirst hsecond hwalks⟩

/-- What a run visits is the beginning of the reading order. -/
theorem Walks.isPrefix_preorders (h : Walks first second stack visited verdict) :
    visited <+: preorders stack := by
  induction h with
  | done => exact List.nil_prefix
  | first _ => exact List.prefix_append [_] _
  | second _ _ => exact List.prefix_append [_] _
  | next _ _ _ ih =>
      rw [preorders_cons, Element.preorder_eq, List.cons_append, ← preorders_append]
      exact List.cons_prefix_cons.mpr ⟨rfl, ih⟩

end Runs

/-! ### Elements told apart -/

/-- Where no identity occurs twice, of two elements the one read first is met first, in
whichever order they are asked about. -/
theorem Element.Distinct.compareOrder_of_reads {r : Element} (h : r.Distinct)
    {x y : ElementId} (hxy : r.Reads x y) :
    compareOrder (some r) (some x) (some y) = .first ∧
      compareOrder (some r) (some y) (some x) = .second := by
  refine ⟨h.compareOrder_eq_first_iff.mpr ⟨hxy.left, h.reads_asymm hxy⟩, ?_⟩
  cases hverdict : compareOrder (some r) (some y) (some x) with
  | first => exact absurd hxy (h.compareOrder_eq_first_iff.mp hverdict).2
  | second => rfl
  | neither =>
      have hx : some x ∈ listing (some r) := listing_some r ▸ List.mem_map_of_mem hxy.left
      exact absurd hx ((compareOrder_byPlace _ _ _).neither_iff.mp hverdict).2

/-- Of two elements that are there, the first is met first if it is the other one or is read
before it. -/
theorem Element.Distinct.compareOrder_eq_first_iff_of_holds {r : Element} (h : r.Distinct)
    {x y : ElementId} (hx : r.Holds x) (hy : r.Holds y) :
    compareOrder (some r) (some x) (some y) = .first ↔ x = y ∨ r.Reads x y := by
  rw [h.compareOrder_eq_first_iff, and_iff_right hx]
  by_cases hxy : x = y
  · subst hxy
    exact iff_of_true (h.not_reads_self x) (Or.inl rfl)
  · rw [h.not_reads_iff hy hx (Ne.symm hxy), or_iff_right hxy]

/-! ### Search roots further up -/

/-- In two lists one after the other, the second counts only if the first has neither
target. -/
theorem firstOf_append (first second : Option ElementId) (ids more : List ElementId) :
    firstOf first second (ids ++ more) =
      if firstOf first second ids = .neither then firstOf first second more
      else firstOf first second ids := by
  induction ids with
  | nil => rfl
  | cons id ids ih =>
      rw [List.cons_append, firstOf, firstOf]
      by_cases hfirst : first = some id
      · simp [hfirst]
      · by_cases hsecond : second = some id
        · simp [hfirst, hsecond]
        · rw [if_neg hfirst, if_neg hsecond, if_neg hfirst, if_neg hsecond, ih]

theorem firstOf_eq_neither_iff {x y : ElementId} {ids : List ElementId} :
    firstOf (some x) (some y) ids = .neither ↔ x ∉ ids ∧ y ∉ ids := by
  rw [(firstOf_byPlace (some x) (some y) ids).neither_iff]
  simp

/-- The verdict on two elements of a subtree is the same from the top of the tree. -/
theorem Element.Distinct.compareOrder_subtree {r r' : Element} (h : r'.Distinct)
    (hr : r ∈ r'.preorder) {x y : ElementId} (hx : r.Holds x) (hy : r.Holds y) :
    compareOrder (some r) (some x) (some y) = compareOrder (some r') (some x) (some y) := by
  obtain ⟨before, after, hblock⟩ := Element.ids_block hr
  -- both are in the block, so neither can be in front of it a second time
  have hbefore : firstOf (some x) (some y) before = .neither := by
    have hnodup : (before ++ r.ids ++ after).Nodup := hblock ▸ h
    have hdisjoint := List.disjoint_of_nodup_append hnodup.of_append_left
    exact firstOf_eq_neither_iff.mpr ⟨fun hb => hdisjoint hb hx, fun hb => hdisjoint hb hy⟩
  have hhit : firstOf (some x) (some y) r.ids ≠ .neither := by
    intro hneither
    exact (firstOf_eq_neither_iff.mp hneither).1 hx
  rw [compareOrder_eq_firstOf, compareOrder_eq_firstOf, ← hblock, List.append_assoc,
    firstOf_append, if_pos hbefore, firstOf_append, if_neg hhit]

namespace Page

/-- **The walk decides by the reading order of its search root**, in any document as it was
read and after any edits, for every root and any two targets. -/
theorem compareOrder_decides {reader : ReaderChoice} {html : String} {p : Page}
    (hread : read reader html = .ok p) (edits : List Edit) {root : Option Element}
    (hroot : ∀ r ∈ root, r ∈ preorders (p.editAll edits).document.trees)
    (first second : Option ElementId) :
    (compareOrder root first second).ByPlace (listing root) first second ∧
      (root = none → compareOrder root first second = .neither) ∧
      (listing root).Nodup ∧
      (∀ a b : Element, [a, b].Sublist (preorders root.toList) →
        compareOrder root (some a.id) (some b.id) = .first ∧
          compareOrder root (some b.id) (some a.id) = .second) ∧
      ∃ visited, Walks first second root.toList visited (compareOrder root first second) ∧
        visited <+: preorders root.toList := by
  have hdistinct := (editAll_sound hread edits).1.distinct
  obtain ⟨visited, hwalks⟩ := exists_walks first second root.toList
  refine ⟨compareOrder_byPlace root first second, ?_, ?_, ?_,
    visited, hwalks, hwalks.isPrefix_preorders⟩
  · rintro rfl
    exact (compareOrder_byPlace none first second).neither_iff.mpr
      ⟨List.not_mem_nil, List.not_mem_nil⟩
  · cases root with
    | none => exact List.nodup_nil
    | some r =>
        rw [listing_some]
        exact (hdistinct.subtree (hroot r rfl)).map fun _ _ => Option.some.inj
  · intro a b hsub
    cases root with
    | none => exact absurd hsub (by simp)
    | some r =>
        rw [Option.toList_some, preorders_cons, preorders_nil, List.append_nil] at hsub
        exact (hdistinct.subtree (hroot r rfl)).compareOrder_of_reads (hsub.map Element.id)

/-- Two paragraphs that look the same are appended to a page. -/
def twins : List Edit := [.append .root "p" [] none, .append .root "p" [] none]

/-- The paragraphs are told apart by their identities. -/
theorem compareOrder_decides_twins :
    ∃ p, read .any "" = .ok p ∧
      compareOrder (some (p.editAll twins).document.root) (some (.numbered 0))
        (some (.numbered 1)) = .first ∧
      compareOrder (some (p.editAll twins).document.root) (some (.numbered 1))
        (some (.numbered 0)) = .second := by
  obtain ⟨p, hread, hplaces⟩ : ∃ p, read .any "" = .ok p ∧
      decide (listing (some (p.editAll twins).document.root) =
        [some .root, some (.numbered 0), some (.numbered 1)]) = true :=
    exists_ok_of_any (by decide +kernel)
  have hlisting := of_decide_eq_true hplaces
  have hroot : ∀ r ∈ some (p.editAll twins).document.root,
      r ∈ preorders (p.editAll twins).document.trees := by
    rintro r ⟨⟩
    exact List.mem_append_left _ (Element.mem_preorder_self _)
  obtain ⟨hfirst, -⟩ :=
    compareOrder_decides hread twins hroot (some (.numbered 0)) (some (.numbered 1))
  obtain ⟨hsecond, -⟩ :=
    compareOrder_decides hread twins hroot (some (.numbered 1)) (some (.numbered 0))
  rw [hlisting] at hfirst hsecond
  exact ⟨p, hread, hfirst.first_iff.mpr (by decide), hsecond.second_iff.mpr (by decide)⟩

/-- **The verdict does not depend on the search root** once both elements are inside of it.
So a body that has both landmarks tells the order that they have in the whole tree. -/
theorem compareOrder_from_above {reader : ReaderChoice} {html : String} {p : Page}
    (hread : read reader html = .ok p) (edits : List Edit) :
    (∀ r' ∈ preorders (p.editAll edits).document.trees, ∀ r ∈ r'.preorder, ∀ a b,
      r.Holds a → r.Holds b →
        compareOrder (some r) (some a) (some b) = compareOrder (some r') (some a) (some b)) ∧
      ∃ body, (p.editAll edits).bodyElement? = some body ∧
        (∃ t ∈ (p.editAll edits).document.trees, body ∈ t.preorder) ∧
        ((p.editAll edits).document.detached = [] →
          body ∈ (p.editAll edits).document.root.preorder) ∧
        ∀ t ∈ (p.editAll edits).document.trees, body ∈ t.preorder → ∀ main nav,
          body.Holds main → body.Holds nav →
            ((p.editAll edits).navBeforeMain (some main) (some nav) = true ↔
              nav = main ∨ t.Reads nav main) := by
  have hdistinct := (editAll_sound hread edits).1.distinct
  obtain ⟨body, hbody⟩ := exists_body_editAll hread edits
  obtain ⟨t, ht, hmem⟩ := List.mem_flatMap.mp (hdistinct.find?_eq_some_iff.mp hbody).1
  refine ⟨?_, body, hbody, ⟨t, ht, hmem⟩, ?_, ?_⟩
  · intro r' hr' r hr a b ha hb
    exact (hdistinct.subtree hr').compareOrder_subtree hr ha hb
  · intro hdetached
    rw [Document.trees, hdetached, List.mem_singleton] at ht
    exact ht ▸ hmem
  · intro t ht hmem main nav hmain hnav
    have htree := hdistinct.subtree (List.mem_flatMap.mpr ⟨t, ht, t.mem_preorder_self⟩)
    have hblock := Element.ids_block hmem
    rw [navBeforeMain, hbody, htree.compareOrder_subtree hmem hnav hmain, beq_iff_eq,
      htree.compareOrder_eq_first_iff_of_holds (hblock.subset hnav) (hblock.subset hmain)]

/-- The body of this page has both landmarks, and the document has something before it. -/
theorem compareOrder_from_above_body :
    ∃ p body, read .any "<p></p><body><nav></nav><main></main></body>" = .ok p ∧
      p.bodyElement? = some body ∧ body ∈ p.document.root.preorder ∧
      body.Holds (.numbered 2) ∧ body.Holds (.numbered 3) ∧
      compareOrder (some body) (some (.numbered 2)) (some (.numbered 3)) =
        compareOrder (some p.document.root) (some (.numbered 2)) (some (.numbered 3)) ∧
      p.navBeforeMain (some (.numbered 3)) (some (.numbered 2)) = true := by
  obtain ⟨p, hread, hplaces⟩ : ∃ p,
      read .any "<p></p><body><nav></nav><main></main></body>" = .ok p ∧
      (p.bodyElement?.any fun body => decide (body.Holds (.numbered 2) ∧
        body.Holds (.numbered 3) ∧ p.document.root.Reads (.numbered 2) (.numbered 3) ∧
          p.document.detached.length = 0)) = true :=
    exists_ok_of_any (by decide +kernel)
  obtain ⟨habove, body, hbody, -, hroot, horder⟩ := compareOrder_from_above hread []
  rw [show p.bodyElement? = some body from hbody, Option.any_some] at hplaces
  obtain ⟨hnav, hmain, hreads, hdetached⟩ := of_decide_eq_true hplaces
  have hmem := hroot (List.eq_nil_of_length_eq_zero hdetached)
  have htop : p.document.root ∈ preorders p.document.trees :=
    List.mem_append_left _ (Element.mem_preorder_self _)
  exact ⟨p, body, hread, hbody, hmem, hnav, hmain,
    habove _ htop body hmem _ _ hnav hmain,
    (horder _ List.mem_cons_self hmem _ _ hmain hnav).mpr (Or.inr hreads)⟩

end Page

end PageLandmarks

import PageLandmarks.Proofs.Assoc
import PageLandmarks.Proofs.Snapshot

/-!
# PageLandmarks.Proofs.BodyChildren

**The children of the body: their places, and the longest of them.** On a page as it was read
and after any edits, no child is listed twice, because no identity occurs twice in the trees.
So the place of an element among the children is the inverse of the listing
(`Page.siblingIndex_inverts_listing`), and it tells elements apart that look the same.

Main content that is not marked is inferred in one pass over the children (`longest?`). The
pass comes to what a stable sort by falling length would put first
(`longest?_eq_head?_mergeSort`): the earliest of the longest children
(`Page.main_first_of_longest`).
-/

namespace PageLandmarks

/-! ### Places -/

/-- Where no identity occurs twice, the place of an identity is where its element is
listed. -/
theorem findIdx?_id_eq_some_iff {es : List Element} (hnd : (es.map Element.id).Nodup)
    {id : ElementId} {i : Nat} :
    es.findIdx? (fun e => e.id == id) = some i ↔ ∃ c, es[i]? = some c ∧ id = c.id := by
  constructor
  · intro h
    obtain ⟨hlt, hid, -⟩ := List.findIdx?_eq_some_iff_getElem.mp h
    exact ⟨es[i], List.getElem?_eq_getElem hlt, (by simpa using hid : es[i].id = id).symm⟩
  · rintro ⟨c, hc, rfl⟩
    obtain ⟨hlt, rfl⟩ := List.getElem?_eq_some_iff.mp hc
    -- what comes before the element has its length for a place
    have hsplit : es.take i ++ es[i] :: es.drop (i + 1) = es := by
      rw [List.getElem_cons_drop, List.take_append_drop]
    have hfind := findIdx?_id_append (hsplit.symm ▸ hnd)
    rwa [hsplit, List.length_take_of_le (Nat.le_of_lt hlt)] at hfind

/-- The element with this identity is directly in `b` and no head, and more than `count` others
of that sort come before it. -/
theorem Element.follows_succ_iff {b : Element} {count : Nat} {id : ElementId} :
    b.Follows (count + 1) id ↔
      ∃ before c after, b.elementChildren = before ++ c :: after ∧ c.name ≠ "head" ∧
        id = c.id ∧ count < before.countP fun e => e.name != "head" := by
  constructor
  · rintro ⟨before, c, after, hsplit, hid, hcount⟩
    obtain ⟨before', after', hchildren, rfl, hname, -⟩ := filter_eq_append_cons_iff.mp hsplit
    rw [← List.countP_eq_length_filter] at hcount
    exact ⟨before', c, after', hchildren, by simpa using hname, hid.symm, hcount⟩
  · rintro ⟨before, c, after, hsplit, hname, hid, hcount⟩
    rw [List.countP_eq_length_filter] at hcount
    refine ⟨_, c, _, filter_eq_append_cons_iff.mpr ⟨before, after, hsplit, rfl, ?_, rfl⟩, hid.symm,
      hcount⟩
    simpa using hname

namespace Page

/-- On the page `q`, the places of elements among the children of the body `b` are told by
identity. -/
structure PlacesByIdentity (q : Page) (b : Element) : Prop where
  /-- The children are the elements directly in the body that are no heads, as they are
  read. -/
  listed : q.bodyChildren = b.elementChildren.filter fun c => c.name != "head"
  /-- No child is listed twice. -/
  nodup : (q.bodyChildren.map Element.id).Nodup
  /-- An identity has a place if the element listed there has the identity. -/
  index_iff : ∀ (x : Option ElementId) (i : Nat), q.siblingIndex? x = some i ↔
    ∃ c, q.bodyChildren[i]? = some c ∧ x = some c.id
  /-- An element of the page has a place if it is the one listed there. -/
  index_self_iff : ∀ e ∈ preorders q.document.trees, ∀ i,
    q.siblingIndex? (some e.id) = some i ↔ q.bodyChildren[i]? = some e
  /-- There is no place for nothing, and none for anything but a child that is no head. -/
  index_none_iff : ∀ x, q.siblingIndex? x = none ↔
    x = none ∨ ¬ ∃ c ∈ b.elementChildren, c.name ≠ "head" ∧ x = some c.id
  /-- The main content is out of place if it is such a child and has more than one before it
  beside a navigation, or any without. -/
  mainFirst_iff : ∀ x navExists, q.mainFirst x navExists = false ↔
    ∃ before c after, b.elementChildren = before ++ c :: after ∧ c.name ≠ "head" ∧
      x = some c.id ∧ (if navExists then 1 else 0) < before.countP fun e => e.name != "head"
  /-- A place that is right without a navigation is right beside one. -/
  mainFirst_mono : ∀ x, q.mainFirst x false = true → q.mainFirst x true = true

theorem siblingIndex?_eq_some_iff {q : Page} (hnd : (q.bodyChildren.map Element.id).Nodup)
    {x : Option ElementId} {i : Nat} :
    q.siblingIndex? x = some i ↔ ∃ c, q.bodyChildren[i]? = some c ∧ x = some c.id := by
  cases x with
  | none => simp [siblingIndex?]
  | some id =>
      simp only [siblingIndex?, Option.bind_some, Option.some.injEq]
      exact findIdx?_id_eq_some_iff hnd

theorem siblingIndex?_eq_none_iff {q : Page} {x : Option ElementId} :
    q.siblingIndex? x = none ↔ ∀ c ∈ q.bodyChildren, x ≠ some c.id := by
  cases x with
  | none => simp [siblingIndex?]
  | some id =>
      simp only [siblingIndex?, Option.bind_some, List.findIdx?_eq_none_iff, beq_eq_false_iff_ne,
        ne_eq, Option.some.injEq]
      exact forall₂_congr fun c _ => not_congr eq_comm

theorem mainFirst_mono {q : Page} {x : Option ElementId} (h : q.mainFirst x false = true) :
    q.mainFirst x true = true := by
  unfold mainFirst at h ⊢
  cases hindex : q.siblingIndex? x with
  | none => rfl
  | some i =>
      rw [hindex] at h
      simp only [Bool.false_and, Bool.or_false] at h
      simp only [h, Bool.true_or]

/-- **The place of an element is the inverse of the listing of the body's children**, on a page
as it was read and after any edits. -/
theorem siblingIndex_inverts_listing {reader : ReaderChoice} {html : String} {p : Page}
    (hread : read reader html = .ok p) (edits : List Edit) :
    ∃ b, (p.editAll edits).bodyElement? = some b ∧ (p.editAll edits).PlacesByIdentity b := by
  obtain ⟨b, hbody⟩ := exists_body_editAll hread edits
  obtain ⟨hdistinct, hfind⟩ := body_editAll hread edits hbody
  have hlisted := bodyChildren_eq hbody
  have hnd : ((p.editAll edits).bodyChildren.map Element.id).Nodup :=
    hlisted ▸ hdistinct.content_nodup
  refine ⟨b, hbody, hlisted, hnd, fun x i => siblingIndex?_eq_some_iff hnd, ?_, ?_, ?_,
    fun x => mainFirst_mono⟩
  · intro e he i
    rw [siblingIndex?_eq_some_iff hnd]
    constructor
    · rintro ⟨c, hc, hid⟩
      -- the page has one element of this identity
      have hec := ((editAll_sound hread edits).1.distinct.find?_eq_some_iff).mpr ⟨he, rfl⟩
      have hcc := hfind c (hlisted ▸ List.mem_of_getElem? hc)
      rw [← Option.some.inj hid] at hcc
      rw [hc, Option.some.inj (hcc.symm.trans hec)]
    · intro hc
      exact ⟨e, hc, rfl⟩
  · intro x
    rw [siblingIndex?_eq_none_iff, hlisted]
    cases x with
    | none => simp
    | some id => simp [Element.contentChildren]
  · intro x navExists
    cases x with
    | none => simp [mainFirst, siblingIndex?]
    | some id =>
        rw [mainFirst_eq_false_iff hbody hdistinct]
        simp only [Option.some.injEq]
        cases navExists with
        | false => exact Element.follows_succ_iff
        | true => exact Element.follows_succ_iff

/-- The first of two paragraphs is taken out, and another that looks like them comes last. -/
def replacingFirst : List Edit := [.extract (.numbered 1), .append .root "p" [] none]

/-- The new paragraph is told from the one that was there, and the head has no place. -/
theorem siblingIndex_inverts_listing_twins :
    ∃ p b c, read .any "<head></head><p></p><p></p>" = .ok p ∧
      (p.editAll replacingFirst).PlacesByIdentity b ∧ c.id = .numbered 3 ∧
      (p.editAll replacingFirst).bodyChildren[1]? = some c ∧
      (p.editAll replacingFirst).siblingIndex? (some (.numbered 3)) = some 1 ∧
      (p.editAll replacingFirst).siblingIndex? (some (.numbered 0)) = none := by
  obtain ⟨p, hread, hlisted⟩ : ∃ p, read .any "<head></head><p></p><p></p>" = .ok p ∧
      decide ((p.editAll replacingFirst).bodyChildren.map Element.id =
        [.numbered 2, .numbered 3]) = true :=
    exists_ok_of_any (by decide +kernel)
  have hids := of_decide_eq_true hlisted
  obtain ⟨b, -, hplaces⟩ := siblingIndex_inverts_listing hread replacingFirst
  obtain ⟨c, hc, hid⟩ : ∃ c, (p.editAll replacingFirst).bodyChildren[1]? = some c ∧
      c.id = .numbered 3 := by
    rw [← Option.map_eq_some_iff, ← List.getElem?_map, hids]
    rfl
  refine ⟨p, b, c, hread, hplaces, hid, hc, (hplaces.index_iff _ _).mpr ⟨c, hc, by rw [hid]⟩, ?_⟩
  rw [siblingIndex?_eq_none_iff]
  intro e he heq
  have hmem : e.id ∈ (p.editAll replacingFirst).bodyChildren.map Element.id :=
    List.mem_map_of_mem he
  rw [hids, ← Option.some.inj heq] at hmem
  simp at hmem

end Page

/-! ### The longest child -/

/-- `m` is the earliest of the longest elements of a list. -/
structure FirstLongest (es : List Element) (m : Element) : Prop where
  /-- No element has longer markup. -/
  longest : ∀ e ∈ es, e.markupLength ≤ m.markupLength
  /-- It stands in the list, and all elements before it have shorter markup. -/
  first : ∃ before after, es = before ++ m :: after ∧
    ∀ e ∈ before, e.markupLength < m.markupLength

namespace FirstLongest

variable {es : List Element} {e m : Element}

/-- A shorter element in front changes nothing. -/
theorem cons (h : FirstLongest es m) (hlt : e.markupLength < m.markupLength) :
    FirstLongest (e :: es) m where
  longest := List.forall_mem_cons.mpr ⟨Nat.le_of_lt hlt, h.longest⟩
  first := by
    obtain ⟨before, after, rfl, hbefore⟩ := h.first
    exact ⟨e :: before, after, rfl, List.forall_mem_cons.mpr ⟨hlt, hbefore⟩⟩

/-- An element in front that is as long as any other is the first of the longest. -/
theorem head (h : ∀ f ∈ es, f.markupLength ≤ e.markupLength) : FirstLongest (e :: es) e where
  longest := List.forall_mem_cons.mpr ⟨Nat.le_refl _, h⟩
  first := ⟨[], es, rfl, fun _ hf => absurd hf List.not_mem_nil⟩

end FirstLongest

theorem firstLongest_of_longest? {es : List Element} {m : Element} (h : longest? es = some m) :
    FirstLongest es m := by
  induction es generalizing m with
  | nil => simp [longest?] at h
  | cons e es ih =>
      rw [longest?] at h
      cases hrest : longest? es with
      | none =>
          rw [hrest] at h
          obtain rfl := Option.some.inj h
          rw [longest?_eq_none_iff] at hrest
          subst hrest
          exact .head fun _ hf => absurd hf List.not_mem_nil
      | some m' =>
          have hm' := ih hrest
          simp only [hrest] at h
          split at h
          · rename_i hlt
            obtain rfl := Option.some.inj h
            exact hm'.cons hlt
          · rename_i hge
            obtain rfl := Option.some.inj h
            exact .head fun f hf => Nat.le_trans (hm'.longest f hf) (Nat.le_of_not_lt hge)

/-- The first element comes no later than the second in a ranking by falling length. -/
def Element.ranksOver (e f : Element) : Bool := f.markupLength ≤ e.markupLength

/-- **One pass comes to what a stable sort by falling length puts first.** -/
theorem longest?_eq_head?_mergeSort (es : List Element) :
    longest? es = (es.mergeSort Element.ranksOver).head? := by
  have htrans : ∀ a b c : Element, a.ranksOver b → b.ranksOver c → a.ranksOver c := by
    intro a b c hab hbc
    simp only [Element.ranksOver, decide_eq_true_eq] at hab hbc ⊢
    exact Nat.le_trans hbc hab
  have htotal : ∀ a b : Element, (a.ranksOver b || b.ranksOver a) = true := by
    intro a b
    simp only [Element.ranksOver, Bool.or_eq_true, decide_eq_true_eq]
    exact Nat.le_total _ _
  induction es with
  | nil => rw [List.mergeSort_nil]; rfl
  | cons e es ih =>
      -- the sort puts `e` in front of all elements that are not longer, and keeps their order
      obtain ⟨longer, others, hsort, hrest, hlonger⟩ := List.mergeSort_cons htrans htotal e es
      have hsorted := List.pairwise_mergeSort htrans htotal (e :: es)
      rw [hsort] at hsorted ⊢
      rw [longest?, ih, hrest]
      cases longer with
      | nil =>
          cases others with
          | nil => rfl
          | cons m others =>
              have hem : e.ranksOver m = true :=
                List.rel_of_pairwise_cons hsorted List.mem_cons_self
              simp only [Element.ranksOver, decide_eq_true_eq] at hem
              simp [Nat.not_lt.mpr hem]
      | cons m longer =>
          have hem := hlonger m List.mem_cons_self
          simp only [Element.ranksOver, Bool.not_eq_true', decide_eq_false_iff_not,
            Nat.not_le] at hem
          simp [hem]

namespace Page

/-- **Without a marked main content, the earliest of the longest children of the body is taken
for it**, on a page as it was read and after any edits. -/
theorem main_first_of_longest {reader : ReaderChoice} {html : String} {p : Page}
    (hread : read reader html = .ok p) (hunmarked : p.mains = []) (edits : List Edit) :
    ∃ b found, (p.editAll edits).bodyElement? = some b ∧
      Detector.main (p.editAll edits) = found.elim .absent .inferred ∧
      (p.editAll edits).mainElement? = found ∧
      (found = none ↔ ∀ c ∈ b.elementChildren, c.name = "head") ∧
      (∀ m, found = some m → m ∈ b.elementChildren ∧ m.name ≠ "head" ∧
        FirstLongest b.contentChildren m) ∧
      found = (b.contentChildren.mergeSort Element.ranksOver).head? := by
  obtain ⟨b, hbody⟩ := exists_body_editAll hread edits
  obtain ⟨-, hfind⟩ := body_editAll hread edits hbody
  have hmains : (p.editAll edits).mains = [] := by rw [editAll_eq]; exact hunmarked
  have hmain : Detector.main (p.editAll edits) =
      (longest? b.contentChildren).elim .absent .inferred := by
    rw [Detector.main, hmains, bodyChildren_eq hbody, detect_nil]
  refine ⟨b, _, hbody, hmain, ?_, ?_, ?_, longest?_eq_head?_mergeSort _⟩
  · rw [mainElement?, hmain]
    cases hlongest : longest? b.contentChildren with
    | none => rfl
    | some m => exact hfind m (mem_of_longest? hlongest)
  · rw [longest?_eq_none_iff, Element.contentChildren_eq_nil_iff]
  · intro m hm
    obtain ⟨hchild, hname⟩ := List.mem_filter.mp (mem_of_longest? hm)
    exact ⟨hchild, by simpa using hname, firstLongest_of_longest? hm⟩

/-- Two children have markup of the greatest length, and the first of them is taken. -/
theorem main_first_of_longest_tie :
    ∃ p b m, read .any "<p></p><div></div><ul>aa</ul>" = .ok p ∧ p.mains = [] ∧
      p.bodyElement? = some b ∧ Detector.main p = .inferred m ∧ m.id = .numbered 1 ∧
      FirstLongest b.contentChildren m := by
  obtain ⟨p, hread, hfound⟩ : ∃ p, read .any "<p></p><div></div><ul>aa</ul>" = .ok p ∧
      decide (p.mains = [] ∧ (Detector.main p).id? = some (.numbered 1)) = true :=
    exists_ok_of_any (by decide +kernel)
  obtain ⟨hunmarked, hid⟩ := of_decide_eq_true hfound
  obtain ⟨b, found, hbody, hmain, -, -, hlongest, -⟩ := main_first_of_longest hread hunmarked []
  rw [show Detector.main p = _ from hmain] at hid
  cases found with
  | none => cases hid
  | some m =>
      exact ⟨p, b, m, hread, hunmarked, hbody, hmain, Option.some.inj hid, (hlongest m rfl).2.2⟩

end Page

end PageLandmarks

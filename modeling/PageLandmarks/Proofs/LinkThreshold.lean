import PageLandmarks.Proofs.BreadthFirst

/-!
# PageLandmarks.Proofs.LinkThreshold

**A higher threshold only delays the inferred navigation.** An element with enough links for
one threshold has enough for every lower one, also for one below zero, where elements without
any links begin to qualify. Whatever the threshold, the scan goes through the same list, by
depth and in reading order at each depth. So with the lower threshold it stops at the same
element or before it (`scan_noLater`), and where it comes upon nothing, it comes upon nothing
with the higher one either. A marked navigation is found without any threshold.
-/

namespace PageLandmarks

theorem Element.isLinkBlock_of_le {j k : Int} (hjk : j ≤ k) {e : Element}
    (h : e.isLinkBlock k = true) : e.isLinkBlock j = true := by
  simp only [Element.isLinkBlock, Bool.and_eq_true, decide_eq_true_eq] at h ⊢
  exact ⟨Int.le_trans hjk h.1, h.2⟩

/-! ### Searches that stop earlier -/

theorem pair_sublist_append_cons {α : Type} {before after : List α} {x y : α} (hy : y ∈ after) :
    [x, y].Sublist (before ++ x :: after) :=
  ((List.singleton_sublist.mpr hy).cons_cons x).trans (List.sublist_append_right before _)

/-- A search that takes more elements stops no later. -/
theorem exists_find?_of_imp {α : Type} {p q : α → Bool} (himp : ∀ x, q x = true → p x = true)
    {xs : List α} {y : α} (hy : xs.find? q = some y) :
    ∃ x, xs.find? p = some x ∧ (x = y ∨ [x, y].Sublist xs) := by
  have hpy : p y = true := himp y (List.find?_some hy)
  have hmem : y ∈ xs := List.mem_of_find?_eq_some hy
  obtain ⟨x, hx⟩ := Option.isSome_iff_exists.mp (List.find?_isSome.mpr ⟨y, hmem, hpy⟩)
  obtain ⟨-, before, after, rfl, hbefore⟩ := List.find?_eq_some_iff_append.mp hx
  refine ⟨x, hx, ?_⟩
  rcases List.mem_append.mp hmem with hmem | hmem
  · -- before the first element that is taken, none is
    have hnot := hbefore y hmem
    rw [hpy] at hnot
    cases hnot
  · rcases List.mem_cons.mp hmem with rfl | hmem
    · exact Or.inl rfl
    · exact Or.inr (pair_sublist_append_cons hmem)

/-- By depth, the element `e` of the trees `es` comes no later than the element `f`. -/
structure NoLater (es : List Element) (e f : Element) : Prop where
  /-- It is the other element, or comes before it in the list by depth. -/
  listed : e = f ∨ [e, f].Sublist (byDepth es)
  /-- It is less deep than the other element, or as deep and not read after it. -/
  placed : ∃ x ∈ ranked es, ∃ y ∈ ranked es, x.2 = e ∧ y.2 = f ∧
    (x.1 < y.1 ∨ x.1 = y.1 ∧ (x = y ∨ [x, y].Sublist (ranked es)))

/-- The shallowest element of some sort is less deep than any other of that sort, or as deep
and not read after it. -/
theorem Shallowest.placed {p : Element → Bool} {es : List Element} {e f : Element}
    (h : Shallowest p es e) (hmem : f ∈ preorders es) (hf : p f = true) :
    ∃ x ∈ ranked es, ∃ y ∈ ranked es, x.2 = e ∧ y.2 = f ∧
      (x.1 < y.1 ∨ x.1 = y.1 ∧ (x = y ∨ [x, y].Sublist (ranked es))) := by
  obtain ⟨-, depth, before, after, hsplit, hbefore, hafter⟩ := h
  rw [← ranked_map_snd] at hmem
  obtain ⟨y, hy, rfl⟩ := List.mem_map.mp hmem
  rw [hsplit] at hy ⊢
  refine ⟨(depth, e), List.mem_append_right _ List.mem_cons_self, y, hy, rfl, rfl, ?_⟩
  rcases List.mem_append.mp hy with hy | hy
  · exact Or.inl (hbefore y hy hf)
  · rcases List.mem_cons.mp hy with rfl | hy
    · exact Or.inr ⟨rfl, Or.inl rfl⟩
    · rcases Nat.lt_or_eq_of_le (hafter y hy hf) with hlt | heq
      · exact Or.inl hlt
      · exact Or.inr ⟨heq, Or.inr (pair_sublist_append_cons hy)⟩

/-- **With a lower threshold the scan stops no later.** -/
theorem scan_noLater {j k : Int} (hjk : j ≤ k) {seeds : List Element} {f : Element}
    (hf : scan k (.ofList seeds) = some f) :
    ∃ e, scan j (.ofList seeds) = some e ∧ NoLater seeds e f := by
  have hscan : ∀ minLinks, scan minLinks (.ofList seeds) =
      (byDepth seeds).find? fun e => e.isLinkBlock minLinks := by
    intro minLinks
    rw [scan_eq_find?_levelOrder, Queue.toList_ofList, levelOrder_eq_byDepth]
  rw [hscan] at hf ⊢
  obtain ⟨e, he, hlisted⟩ :=
    exists_find?_of_imp (p := fun e => e.isLinkBlock j) (fun _ => Element.isLinkBlock_of_le hjk) hf
  have hmem : f ∈ preorders seeds := (byDepth_perm seeds).mem_iff.mp (List.mem_of_find?_eq_some hf)
  have hblock : f.isLinkBlock j = true := Element.isLinkBlock_of_le hjk (List.find?_some hf)
  exact ⟨e, he, hlisted, (shallowest_of_find?_byDepth he).placed hmem hblock⟩

/-! ### Detectors with two thresholds -/

namespace Page

/-- What is found on a page with nothing marked is what the scan of the body comes upon. -/
theorem navigation_of_unmarked {q : Page} {b : Element} (hunmarked : q.navigations = [])
    (hbody : q.bodyElement? = some b) (minLinks : Int) :
    (⟨minLinks⟩ : Detector).navigation q =
      (scan minLinks (.ofList b.scanSeeds)).elim .absent .inferred := by
  rw [Detector.navigation, hunmarked, bodyChildren_eq hbody, b.scanSeeds_eq, detect_nil]

/-- Among marked elements the threshold has no part. -/
theorem navigation_of_marked {q : Page} (hmarked : q.navigations ≠ []) (j k : Int) :
    (⟨j⟩ : Detector).navigation q = (⟨k⟩ : Detector).navigation q := by
  unfold Detector.navigation
  match hids : q.navigations with
  | [] => exact absurd hids hmarked
  | [id] => rfl
  | id :: id' :: ids => rfl

theorem Fresh.navigations_eq_nil_iff {p : Page} (h : p.Fresh) :
    p.navigations = [] ↔ p.document.Unmarked .navigation := by
  rw [h.navigations, ← Document.markedAs_eq_nil_iff]
  exact List.map_eq_nil_iff

/-- **Raising the threshold only delays the navigation**, on a page as it was read and after
any edits. -/
theorem navigation_delayed {reader : ReaderChoice} {html : String} {p : Page}
    (hread : read reader html = .ok p) (edits : List Edit) {j k : Int} (hjk : j ≤ k) :
    (∀ f, ((⟨k⟩ : Detector).navigation (p.editAll edits)).id? = some f →
      ∃ e, ((⟨j⟩ : Detector).navigation (p.editAll edits)).id? = some e) ∧
    (((⟨j⟩ : Detector).navigation (p.editAll edits)).id? = none →
      ((⟨k⟩ : Detector).navigation (p.editAll edits)).id? = none) ∧
    (¬ p.document.Unmarked .navigation →
      (⟨j⟩ : Detector).navigation (p.editAll edits) =
        (⟨k⟩ : Detector).navigation (p.editAll edits)) ∧
    (p.document.Unmarked .navigation → ∃ b found found',
      (p.editAll edits).bodyElement? = some b ∧
      (⟨j⟩ : Detector).navigation (p.editAll edits) = found.elim .absent .inferred ∧
      (⟨k⟩ : Detector).navigation (p.editAll edits) = found'.elim .absent .inferred ∧
      ∀ f, found' = some f → ∃ e, found = some e ∧ NoLater b.scanSeeds e f) := by
  have hnavigations : (p.editAll edits).navigations = p.navigations := by rw [editAll_eq]
  have hmarks := (fresh_of_read hread).navigations_eq_nil_iff
  have hequal : p.navigations ≠ [] → (⟨j⟩ : Detector).navigation (p.editAll edits) =
      (⟨k⟩ : Detector).navigation (p.editAll edits) :=
    fun hmarked => navigation_of_marked (hnavigations ▸ hmarked) j k
  obtain ⟨b, hbody⟩ := exists_body_editAll hread edits
  have hscan : p.navigations = [] → ∀ minLinks,
      (⟨minLinks⟩ : Detector).navigation (p.editAll edits) =
        (scan minLinks (.ofList b.scanSeeds)).elim .absent .inferred :=
    fun hnone => navigation_of_unmarked (hnavigations.trans hnone) hbody
  have hfound : ∀ f, ((⟨k⟩ : Detector).navigation (p.editAll edits)).id? = some f →
      ∃ e, ((⟨j⟩ : Detector).navigation (p.editAll edits)).id? = some e := by
    intro f hf
    by_cases hnone : p.navigations = []
    · rw [hscan hnone] at hf ⊢
      cases hk : scan k (.ofList b.scanSeeds) with
      | none => rw [hk] at hf; cases hf
      | some g =>
          obtain ⟨e, he, -⟩ := scan_noLater hjk hk
          exact ⟨e.id, by rw [he]; rfl⟩
    · exact ⟨f, hequal hnone ▸ hf⟩
  refine ⟨hfound, ?_, fun hmarked => hequal (mt hmarks.mp hmarked), fun hunmarked => ?_⟩
  · intro hnone
    refine Option.eq_none_iff_forall_ne_some.mpr fun f hf => ?_
    obtain ⟨e, he⟩ := hfound f hf
    rw [hnone] at he
    cases he
  · have hnone := hmarks.mpr hunmarked
    exact ⟨b, _, _, hbody, hscan hnone j, hscan hnone k, fun f => scan_noLater hjk⟩

/-- Below zero even a paragraph without links qualifies, and it comes before the list. -/
theorem navigation_delayed_to_list :
    ∃ p b e f, read .any "<p></p><ul><a href>x</a></ul>" = .ok p ∧
      p.document.Unmarked .navigation ∧ (-1 : Int) ≤ 1 ∧ p.bodyElement? = some b ∧
      (⟨-1⟩ : Detector).navigation p = .inferred e ∧ e.id = .numbered 0 ∧
      (⟨1⟩ : Detector).navigation p = .inferred f ∧ f.id = .numbered 1 ∧
      NoLater b.scanSeeds e f := by
  obtain ⟨p, hread, hfound⟩ : ∃ p, read .any "<p></p><ul><a href>x</a></ul>" = .ok p ∧
      decide (p.document.Unmarked .navigation ∧
        ((⟨-1⟩ : Detector).navigation p).id? = some (.numbered 0) ∧
        ((⟨1⟩ : Detector).navigation p).id? = some (.numbered 1)) = true :=
    exists_ok_of_any (by decide +kernel)
  obtain ⟨hunmarked, hlow, hhigh⟩ := of_decide_eq_true hfound
  obtain ⟨-, -, -, hdelayed⟩ := navigation_delayed hread [] (show (-1 : Int) ≤ 1 by decide)
  obtain ⟨b, found, found', hbody, hj, hk, horder⟩ := hdelayed hunmarked
  rw [show (⟨-1⟩ : Detector).navigation p = _ from hj] at hlow
  rw [show (⟨1⟩ : Detector).navigation p = _ from hk] at hhigh
  cases found' with
  | none => cases hhigh
  | some f =>
      obtain ⟨e, rfl, hnoLater⟩ := horder f rfl
      exact ⟨p, b, e, f, hread, hunmarked, by decide, hbody, hj, Option.some.inj hlow, hk,
        Option.some.inj hhigh, hnoLater⟩

end Page

end PageLandmarks

import PageLandmarks.Proofs.Page

/-!
# PageLandmarks.Proofs.Detection

**What the detectors find on a page just read**, said about elements and not about
identities. Both searches choose in the same way (`chosen`): one marked element is
the landmark, of several none is, and without any it is the inferred one. The
inferred one is always below the body: a child of it with the longest markup, or
what the scan has come upon (`mem_of_scan`). So what is found is an element of the
document in every case, and the page finds it by its identity.
-/

namespace PageLandmarks

/-- The landmark, given the marked elements and what can be inferred. -/
def chosen : (marked : List Element) → (inferred : Option Element) → Option Element
  | [], inferred => inferred
  | [e], _ => some e
  | _ :: _ :: _, _ => none

theorem chosen_eq_some_iff {es : List Element} {inferred : Option Element} {e : Element} :
    chosen es inferred = some e ↔ es = [e] ∨ es = [] ∧ inferred = some e := by
  match es with
  | [] => simp [chosen]
  | [f] => simp [chosen]
  | f :: g :: es => simp [chosen]

theorem chosen_eq_none_iff {es : List Element} {inferred : Option Element} :
    chosen es inferred = none ↔ 2 ≤ es.length ∨ es.length = 0 ∧ inferred = none := by
  match es with
  | [] => simp [chosen]
  | [f] => simp [chosen]
  | f :: g :: es => simp [chosen]

theorem detect_id? (es : List Element) (inferred : Option Element) :
    (Detector.detect (es.map Element.id) inferred).id? = (chosen es inferred).map Element.id := by
  match es, inferred with
  | [], none => rfl
  | [], some e => rfl
  | [f], _ => rfl
  | f :: g :: es, _ => rfl

/-- Without a marked element, the landmark is what can be inferred. -/
theorem detect_nil (inferred : Option Element) :
    Detector.detect [] inferred = inferred.elim .absent .inferred := by
  cases inferred <;> rfl

/-! ### Inferred landmarks -/

theorem longest?_eq_none_iff {es : List Element} : longest? es = none ↔ es = [] := by
  cases es with
  | nil => simp [longest?]
  | cons e es =>
      rw [longest?]
      cases longest? es with
      | none => simp
      | some m => simp only [reduceCtorEq, iff_false]; split <;> simp

theorem mem_of_longest? {es : List Element} {e : Element} (h : longest? es = some e) : e ∈ es := by
  induction es generalizing e with
  | nil => simp [longest?] at h
  | cons f es ih =>
      rw [longest?] at h
      cases hl : longest? es with
      | none =>
          rw [hl] at h
          obtain rfl := Option.some.inj h
          exact List.mem_cons_self
      | some m =>
          simp only [hl] at h
          split at h
          · exact List.mem_cons_of_mem _ (ih (hl.trans h))
          · obtain rfl := Option.some.inj h
            exact List.mem_cons_self

/-- The scan comes upon nothing but the elements in the queue and those below
them. -/
theorem mem_of_scan {minLinks : Int} {q : Queue Element} {e : Element}
    (h : scan minLinks q = some e) : e ∈ preorders q.toList := by
  fun_induction scan minLinks q with
  | case1 q hpop => simp at h
  | case2 q f rest hpop hblock =>
      obtain rfl := Option.some.inj h
      rw [Queue.toList_eq_cons_of_pop? hpop, preorders_cons]
      exact List.mem_append_left _ f.mem_preorder_self
  | case3 q f rest hpop hblock ih =>
      -- the children of `f` have moved from its place to the end of the queue
      have hmem := ih h
      rw [Queue.toList_pushAll, preorders_append, List.mem_append] at hmem
      rw [Queue.toList_eq_cons_of_pop? hpop, preorders_cons, List.mem_append, f.preorder_eq]
      rcases hmem with hmem | hmem
      · exact Or.inr hmem
      · exact Or.inl (List.mem_cons_of_mem _ hmem)

/-! ### Elements found on a page -/

/-- The elements of the document that are marked as a landmark, in reading
order. -/
def Document.markedAs (d : Document) (landmark : Landmark) : List Element :=
  d.elements.filter fun e => e.tag.marks landmark

/-- What is below an element of the tree is below its root. -/
theorem Document.mem_elements_of_below {d : Document} {b e : Element}
    (hb : b ∈ d.root.preorder) (he : e ∈ preorders b.elementChildren) : e ∈ d.elements := by
  have hbelow : e ∈ Nodes.elements b.children := by rwa [Nodes.elements_eq_preorders]
  rcases List.mem_cons.mp hb with rfl | hb
  · exact hbelow
  · exact (Nodes.preorder_block hb).subset (List.mem_cons_of_mem _ hbelow)

namespace Page

/-- The element that is found to be the main content. -/
def mainElement? (p : Page) : Option Element := (Detector.main p).id?.bind p.find?

/-- The element that a detector finds to be the navigation. -/
def navigationElement? (p : Page) (detector : Detector) : Option Element :=
  (detector.navigation p).id?.bind p.find?

/-- What can be inferred to be the navigation in a body. -/
def scanned (b : Element) (detector : Detector) : Option Element :=
  scan detector.minNavLinks (.ofList (b.contentChildren.filter fun e => !e.tag.isScript))

namespace Fresh

variable {p : Page} {b : Element}

/-- What has been chosen is found by its identity. -/
theorem bind_find? (h : p.Fresh) {found : Option Element}
    (hmem : ∀ e, found = some e → e ∈ p.document.elements) :
    (found.map Element.id).bind p.find? = found := by
  cases found with
  | none => rfl
  | some e => exact h.find?_of_mem (List.mem_cons_of_mem _ (hmem e rfl))

theorem mem_of_chosen {landmark : Landmark} {inferred : Option Element}
    (hinferred : ∀ e, inferred = some e → e ∈ p.document.elements) {e : Element}
    (he : chosen (p.document.markedAs landmark) inferred = some e) : e ∈ p.document.elements := by
  rcases chosen_eq_some_iff.mp he with hmarked | ⟨-, hinf⟩
  · exact List.mem_of_mem_filter (hmarked ▸ List.mem_cons_self : e ∈ p.document.markedAs landmark)
  · exact hinferred e hinf

theorem longest?_mem (h : p.Fresh) (hbody : p.bodyElement? = some b) {e : Element}
    (he : longest? b.contentChildren = some e) : e ∈ p.document.elements :=
  Document.mem_elements_of_below (h.body_mem hbody)
    ((sublist_preorders _).subset (List.mem_of_mem_filter (mem_of_longest? he)))

theorem scanned_mem (h : p.Fresh) (hbody : p.bodyElement? = some b) {detector : Detector}
    {e : Element} (he : scanned b detector = some e) : e ∈ p.document.elements := by
  have hmem := mem_of_scan he
  rw [Queue.toList_ofList] at hmem
  obtain ⟨c, hc, hec⟩ := List.mem_flatMap.mp hmem
  have hchild : c ∈ b.elementChildren := List.mem_of_mem_filter (List.mem_of_mem_filter hc)
  exact Document.mem_elements_of_below (h.body_mem hbody) (List.mem_flatMap.mpr ⟨c, hchild, hec⟩)

theorem main_id? (h : p.Fresh) (hbody : p.bodyElement? = some b) :
    (Detector.main p).id? =
      (chosen (p.document.markedAs .main) (longest? b.contentChildren)).map Element.id := by
  rw [Detector.main, h.mains, bodyChildren_eq hbody]
  exact detect_id? _ _

theorem navigation_id? (h : p.Fresh) (hbody : p.bodyElement? = some b) (detector : Detector) :
    (detector.navigation p).id? =
      (chosen (p.document.markedAs .navigation) (scanned b detector)).map Element.id := by
  rw [Detector.navigation, h.navigations, bodyChildren_eq hbody]
  exact detect_id? _ _

/-- The main content is the marked element or the body child with the longest
markup. -/
theorem mainElement?_eq (h : p.Fresh) (hbody : p.bodyElement? = some b) :
    p.mainElement? = chosen (p.document.markedAs .main) (longest? b.contentChildren) := by
  rw [mainElement?, h.main_id? hbody]
  exact h.bind_find? fun _ he => mem_of_chosen (fun _ => h.longest?_mem hbody) he

/-- The navigation is the marked element or what the scan of the body has come
upon. -/
theorem navigationElement?_eq (h : p.Fresh) (hbody : p.bodyElement? = some b)
    (detector : Detector) :
    p.navigationElement? detector =
      chosen (p.document.markedAs .navigation) (scanned b detector) := by
  rw [navigationElement?, h.navigation_id? hbody]
  exact h.bind_find? fun _ he => mem_of_chosen (fun _ => h.scanned_mem hbody) he

end Fresh

end Page

end PageLandmarks

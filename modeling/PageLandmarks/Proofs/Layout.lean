import PageLandmarks.Audit
import PageLandmarks.Proofs.Order
import PageLandmarks.Proofs.Tree.Likeness

/-!
# PageLandmarks.Proofs.Layout

**Layout is invisible to everything but the inference of main content.** Two documents
that differ in blanks and comments only (`Document.Alike`) make pages that answer every
question about elements alike (`Page.Alike`): what the body and its children are, where
an element stands among them, which of two elements is read first, and what the
navigation is. An inferred main content is the longest piece of markup, and layout is
part of that. Where main content is marked, the reports agree in everything but the
lines (`Document.Alike.layout_invisible`).
-/

namespace PageLandmarks

variable {μ : Matching}

/-! ### Searches in matching lists -/

section Searches

variable {α β : Type} {R : α → β → Prop} {f : α → Bool} {g : β → Bool}

theorem find?_rel (hfg : ∀ x y, R x y → g y = f x) {xs : List α} {ys : List β}
    (h : List.Forall₂ R xs ys) : Option.Rel R (xs.find? f) (ys.find? g) := by
  induction h with
  | nil => exact .none
  | cons hxy _ ih =>
      rw [List.find?_cons, List.find?_cons, hfg _ _ hxy]
      split
      · exact .some hxy
      · exact ih

theorem findIdx?_eq_of_forall₂ (hfg : ∀ x y, R x y → g y = f x) {xs : List α} {ys : List β}
    (h : List.Forall₂ R xs ys) : ys.findIdx? g = xs.findIdx? f := by
  induction h with
  | nil => rfl
  | cons hxy _ ih => rw [List.findIdx?_cons, List.findIdx?_cons, hfg _ _ hxy, ih]

end Searches

/-- The identities of matching elements are matched. -/
theorem map_id_of_forall₂ {es es' : List Element} (h : List.Forall₂ (Element.Alike μ) es es') :
    es'.map Element.id = (es.map Element.id).map μ.image := by
  induction h with
  | nil => rfl
  | cons he _ ih => rw [List.map_cons, ih, he.id_eq]; rfl

theorem map_id_of_rel {e e' : Option Element} (h : Option.Rel (Element.Alike μ) e e') :
    e'.map Element.id = (e.map Element.id).map μ.image := by
  cases h with
  | none => rfl
  | some he => rw [Option.map_some, he.id_eq]; rfl

/-! ### Documents -/

/-- The trees of the documents differ in their layout only. -/
structure Document.Alike (μ : Matching) (d d' : Document) : Prop where
  /-- The trees under the roots do. -/
  root : d.root.Alike μ d'.root
  /-- So do those that have been taken out. -/
  detached : List.Forall₂ (Element.Alike μ) d.detached d'.detached

namespace Document.Alike

variable {d d' : Document}

theorem elements (h : d.Alike μ d') :
    List.Forall₂ (Element.Alike μ) d.elements d'.elements :=
  h.root.children.elements

/-- Matching identities find matching elements. -/
theorem find? (h : d.Alike μ d') (id : ElementId) :
    Option.Rel (Element.Alike μ) (d.find? id) (d'.find? (μ.image id)) := by
  have htrees : List.Forall₂ (Element.Alike μ) d.trees d'.trees := .cons h.root h.detached
  rw [Document.find?_eq, Document.find?_eq]
  exact find?_rel (fun _ _ he => he.id_beq id) (preorders_alike htrees)

theorem firstNamed?_eq (h : d.Alike μ d') (name : String) :
    Page.firstNamed? d' name = (Page.firstNamed? d name).map μ.image :=
  map_id_of_rel (find?_rel (fun _ _ he => by rw [he.name_eq]) h.elements)

theorem bodyOf_eq (h : d.Alike μ d') : Page.bodyOf d' = μ.image (Page.bodyOf d) := by
  rw [Page.bodyOf, Page.bodyOf, h.firstNamed?_eq, h.firstNamed?_eq]
  cases Page.firstNamed? d "body" with
  | some id => rfl
  | none =>
      cases Page.firstNamed? d "html" with
      | some id => rfl
      | none => exact μ.image_root.symm

theorem marked_eq (h : d.Alike μ d') (landmark : Landmark) :
    Page.marked d' landmark = (Page.marked d landmark).map μ.image :=
  map_id_of_forall₂
    (List.rel_filter (fun _ _ he => by simp only [he.tag.marks_eq]) h.elements)

end Document.Alike

/-! ### Pages -/

/-- The documents of the pages differ in their layout only, and what the pages have
settled matches. -/
structure Page.Alike (μ : Matching) (p p' : Page) : Prop where
  /-- The documents differ in their layout only. -/
  document : p.document.Alike μ p'.document
  /-- The bodies match. -/
  body : p'.body = μ.image p.body
  /-- The elements marked as main content match. -/
  mains : p'.mains = p.mains.map μ.image
  /-- The elements marked as navigation match. -/
  navigations : p'.navigations = p.navigations.map μ.image

theorem Document.Alike.ofDocument {d d' : Document} (h : d.Alike μ d') (html html' : String) :
    (Page.ofDocument html d).Alike μ (Page.ofDocument html' d') :=
  ⟨h, h.bodyOf_eq, h.marked_eq .main, h.marked_eq .navigation⟩

theorem firstOf_map (first second : Option ElementId) (ids : List ElementId) :
    firstOf (first.map μ.image) (second.map μ.image) (ids.map μ.image) =
      firstOf first second ids := by
  have himage : ∀ (target : Option ElementId) (id : ElementId),
      target.map μ.image = some (μ.image id) ↔ target = some id := fun target id => by
    rw [← Option.map_some, (Option.map_injective μ.injective).eq_iff]
  induction ids with
  | nil => rfl
  | cons id ids ih => simp only [List.map_cons, firstOf, himage, ih]

/-- In matching trees the same one of two elements is reached first. -/
theorem compareOrder_alike {root root' : Option Element}
    (h : Option.Rel (Element.Alike μ) root root') (first second : Option ElementId) :
    compareOrder root' (first.map μ.image) (second.map μ.image) =
      compareOrder root first second := by
  have htrees : List.Forall₂ (Element.Alike μ) root.toList root'.toList := by
    cases h with
    | none => exact .nil
    | some he => exact .cons he .nil
  rw [compareOrder, compareOrder, walk_eq_firstOf, walk_eq_firstOf,
    map_id_of_forall₂ (preorders_alike htrees), firstOf_map]

/-- What a search comes to matches, if what is inferred does where nothing is
marked. -/
theorem detect_id?_map (marked : List ElementId) {inferred inferred' : Option Element}
    (h : marked = [] → Option.Rel (Element.Alike μ) inferred inferred') :
    (Detector.detect (marked.map μ.image) inferred').id? =
      (Detector.detect marked inferred).id?.map μ.image := by
  match marked with
  | [] =>
      cases h rfl with
      | none => rfl
      | some he => exact congrArg some he.id_eq
  | [id] => rfl
  | _ :: _ :: _ => rfl

theorem Page.childrenOf_alike {e e' : Option Element} (h : Option.Rel (Element.Alike μ) e e') :
    List.Forall₂ (Element.Alike μ) (Page.childrenOf e) (Page.childrenOf e') := by
  cases h with
  | none => exact .nil
  | some he => exact he.elementChildren

namespace Page.Alike

variable {p p' : Page}

theorem find? (h : p.Alike μ p') (id : ElementId) :
    Option.Rel (Element.Alike μ) (p.find? id) (p'.find? (μ.image id)) := h.document.find? id

theorem bodyElement? (h : p.Alike μ p') :
    Option.Rel (Element.Alike μ) p.bodyElement? p'.bodyElement? := by
  rw [Page.bodyElement?, Page.bodyElement?, h.body]
  exact h.find? p.body

/-- The children of the bodies match one to one. -/
theorem bodyChildren (h : p.Alike μ p') :
    List.Forall₂ (Element.Alike μ) p.bodyChildren p'.bodyChildren :=
  List.rel_filter (fun _ _ he => by simp only [he.name_eq]) (childrenOf_alike h.bodyElement?)

theorem siblingIndex?_eq (h : p.Alike μ p') (id : Option ElementId) :
    p'.siblingIndex? (id.map μ.image) = p.siblingIndex? id := by
  cases id with
  | none => rfl
  | some id => exact findIdx?_eq_of_forall₂ (fun _ _ he => he.id_beq id) h.bodyChildren

theorem navBeforeMain_eq (h : p.Alike μ p') (main nav : Option ElementId) :
    p'.navBeforeMain (main.map μ.image) (nav.map μ.image) = p.navBeforeMain main nav := by
  rw [Page.navBeforeMain, Page.navBeforeMain, compareOrder_alike h.bodyElement?]

theorem mainFirst_eq (h : p.Alike μ p') (main : Option ElementId) (navExists : Bool) :
    p'.mainFirst (main.map μ.image) navExists = p.mainFirst main navExists := by
  rw [Page.mainFirst, Page.mainFirst, h.siblingIndex?_eq]

/-- The navigation of one page matches that of the other, marked or inferred. -/
theorem navigation_id?_eq (h : p.Alike μ p') (detector : Detector) :
    (detector.navigation p').id? = (detector.navigation p).id?.map μ.image := by
  rw [Detector.navigation, Detector.navigation, h.navigations]
  refine detect_id?_map _ fun _ => scan_alike _ ?_
  rw [Queue.toList_ofList, Queue.toList_ofList]
  exact List.rel_filter (fun _ _ he => by simp only [he.tag.isScript_eq]) h.bodyChildren

/-- The main content matches where some is marked: nothing is inferred then. -/
theorem main_id?_eq (h : p.Alike μ p') (hmains : p.mains ≠ []) :
    (Detector.main p').id? = (Detector.main p).id?.map μ.image := by
  rw [Detector.main, Detector.main, h.mains]
  exact detect_id?_map _ fun hnil => absurd hnil hmains

end Page.Alike

/-! ### Reports without their lines -/

/-- A landmark without its line. -/
def LandmarkInfo.withoutLine (i : LandmarkInfo) : LandmarkInfo := { i with line := none }

/-- A problem without its line. -/
def Finding.withoutLine (f : Finding) : Finding := { f with line := none }

/-- A report without the lines of its landmarks and problems. -/
def Report.withoutLines (r : Report) : Report :=
  { r with
    main := r.main.map LandmarkInfo.withoutLine
    navigation := r.navigation.map LandmarkInfo.withoutLine
    findings := r.findings.map Finding.withoutLine }

theorem cut_map {α β : Type} (f : α → β) (limit : Option Int) (xs : List α) :
    (cut limit xs).map f = cut limit (xs.map f) := by
  unfold cut
  split
  · rfl
  · split
    · rw [List.map_take]
    · rw [List.map_take, List.length_map]

/-- How many items are left does not depend on what they are. -/
theorem length_cut_eq_of_map_eq {α β : Type} {f : α → β} {xs ys : List α}
    (h : xs.map f = ys.map f) (limit : Option Int) :
    (cut limit xs).length = (cut limit ys).length := by
  rw [← List.length_map f, cut_map, h, ← cut_map, List.length_map]

theorem finding_withoutLine_eq {e e' : Option Element} (h : Option.Rel (Element.Alike μ) e e')
    (kind : FindingKind) : (finding kind e').withoutLine = (finding kind e).withoutLine := by
  cases h with
  | none => rfl
  | some he => simp [finding, Finding.withoutLine, he.tag.label_eq]

namespace Page.Alike

variable {p p' : Page}

theorem describe_withoutLine_eq (h : p.Alike μ p') (landmark : Landmark)
    (id : Option ElementId) :
    (describe p' landmark (id.map μ.image)).map LandmarkInfo.withoutLine =
      (describe p landmark id).map LandmarkInfo.withoutLine := by
  cases id with
  | none => rfl
  | some id =>
      have hfound := h.find? id
      simp only [describe, Option.map_some, Option.bind_some]
      generalize p.find? id = e, p'.find? (μ.image id) = e' at hfound
      cases hfound with
      | none => rfl
      | some he =>
          simp [LandmarkInfo.withoutLine, he.name_eq, he.tag.label_eq, he.tag.marks_eq]

theorem problems_withoutLine_eq (h : p.Alike μ p') (main nav : Option ElementId)
    (navBeforeMain mainFirst : Bool) :
    (problems p' (main.map μ.image) (nav.map μ.image) navBeforeMain mainFirst).map
        Finding.withoutLine =
      (problems p main nav navBeforeMain mainFirst).map Finding.withoutLine := by
  have hfinding : ∀ (kind : FindingKind) (id : ElementId),
      (finding kind (p'.find? (μ.image id))).withoutLine =
        (finding kind (p.find? id)).withoutLine :=
    fun kind id => finding_withoutLine_eq (h.find? id) kind
  cases main with
  | none => rfl
  | some m =>
      cases nav with
      | none => cases mainFirst <;> simp [problems, hfinding]
      | some n => cases navBeforeMain <;> cases mainFirst <;> simp [problems, hfinding]

/-- Where main content is marked, the reports differ in lines only. -/
theorem report_withoutLines_eq (h : p.Alike μ p') (hmains : p.mains ≠ []) (detector : Detector)
    (limit : Option Int) (exclude : Bool) :
    (p'.report detector limit exclude).withoutLines =
      (p.report detector limit exclude).withoutLines := by
  have hmain := h.main_id?_eq hmains
  have hnav := h.navigation_id?_eq detector
  unfold Page.report Report.withoutLines
  simp only [hmain, hnav, Option.isSome_map, h.navBeforeMain_eq, h.mainFirst_eq,
    h.describe_withoutLine_eq, cut_map]
  cases exclude with
  | true => rfl
  | false =>
      have hproblems := h.problems_withoutLine_eq (Detector.main p).id?
        (detector.navigation p).id?
      -- leaving out the lines does not change the number of problems, before or after the cut
      have hlength := fun navBeforeMain mainFirst =>
        congrArg List.length (hproblems navBeforeMain mainFirst)
      simp only [List.length_map] at hlength
      simp only [Bool.false_eq_true, if_false, hproblems, hlength,
        length_cut_eq_of_map_eq (hproblems _ _)]

end Page.Alike

/-! ### The pages of two documents -/

/-- **Layout is invisible except to the inference of main content.** Documents that
differ in blanks and comments only have matching navigations and matching children of
the body, every element has the same place and every two elements the same order in
both, and where main content is marked the reports differ in lines only. -/
theorem Document.Alike.layout_invisible {d d' : Document} (h : d.Alike μ d')
    (html html' : String) (detector : Detector) :
    let p := Page.ofDocument html d
    let p' := Page.ofDocument html' d'
    (detector.navigation p').id? = (detector.navigation p).id?.map μ.image ∧
      List.Forall₂ (Element.Alike μ) p.bodyChildren p'.bodyChildren ∧
      (∀ id, p'.siblingIndex? (id.map μ.image) = p.siblingIndex? id) ∧
      (∀ main nav, p'.navBeforeMain (main.map μ.image) (nav.map μ.image) =
        p.navBeforeMain main nav) ∧
      (∀ main navExists, p'.mainFirst (main.map μ.image) navExists =
        p.mainFirst main navExists) ∧
      ((∃ e ∈ d.elements, e.tag.marks .main = true) → ∀ limit exclude,
        (p'.report detector limit exclude).withoutLines =
          (p.report detector limit exclude).withoutLines) := by
  intro p p'
  have hp : p.Alike μ p' := h.ofDocument html html'
  refine ⟨hp.navigation_id?_eq detector, hp.bodyChildren, hp.siblingIndex?_eq,
    hp.navBeforeMain_eq, hp.mainFirst_eq, ?_⟩
  rintro ⟨e, he, hmarks⟩ limit exclude
  have hmem : e.id ∈ p.mains := List.mem_map_of_mem (List.mem_filter.mpr ⟨he, hmarks⟩)
  exact hp.report_withoutLines_eq (List.ne_nil_of_mem hmem) detector limit exclude

/-- The document of a page with one link, written on one line. -/
def Document.oneLink : Document :=
  ⟨⟨.root, [.element ⟨.numbered 0, "main", [], some 1⟩ [],
    .element ⟨.numbered 1, "p", [], some 1⟩
      [.element ⟨.numbered 2, "a", [("href", .text "x")], some 1⟩ [.text .ordinary "y"]]]⟩,
    [], 3⟩

/-- The same page with a comment and line breaks in it, which move the link to the
third line. -/
def Document.oneLinkSpaced : Document :=
  ⟨⟨.root, [.element ⟨.numbered 0, "main", [], some 1⟩ [],
    .text .comment " menu ", .text .ordinary "\n",
    .element ⟨.numbered 1, "p", [], some 2⟩
      [.text .ordinary "\n",
        .element ⟨.numbered 2, "a", [("href", .text "x")], some 3⟩ [.text .ordinary " y "]]]⟩,
    [], 3⟩

theorem Document.oneLink_alike : oneLink.Alike .refl oneLinkSpaced := by
  refine ⟨⟨⟨rfl, rfl, rfl⟩, ?_⟩, .nil⟩
  refine .element ⟨rfl, rfl, rfl⟩ .nil (.right (.inl rfl) (.right (.inr rfl) ?_))
  refine .element ⟨rfl, rfl, rfl⟩ (.right (.inr rfl) ?_) .nil
  exact .element ⟨rfl, rfl, rfl⟩ (.text rfl .nil) .nil

/-- On both pages the paragraph around the link is the navigation, and it comes after
the main content. -/
theorem Document.layout_invisible_around_link :
    oneLink.Alike .refl oneLinkSpaced ∧
    (∃ e ∈ oneLink.elements, e.tag.marks .main = true) ∧
    ((⟨1⟩ : Detector).navigation (Page.ofDocument "" oneLinkSpaced)).id? =
      some (.numbered 1) ∧
    ((Page.ofDocument "" oneLinkSpaced).report ⟨1⟩ none false).withoutLines =
      ((Page.ofDocument "" oneLink).report ⟨1⟩ none false).withoutLines := by
  obtain ⟨hnav, -, -, -, -, hreport⟩ := oneLink_alike.layout_invisible "" "" ⟨1⟩
  have hplain : ((⟨1⟩ : Detector).navigation (Page.ofDocument "" oneLink)).id? =
      some (.numbered 1) := by decide +kernel
  have hmarked : ∃ e ∈ oneLink.elements, e.tag.marks .main = true := by decide +kernel
  refine ⟨oneLink_alike, hmarked, ?_, hreport hmarked none false⟩
  rw [hnav, hplain]
  rfl

end PageLandmarks

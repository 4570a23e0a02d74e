import PageLandmarks.Proofs.Audit

/-!
# PageLandmarks.Proofs.Findings

**The problems of a page, told by its tree.** `Document.prescribed` lists the
problems of a document without a walk, an index or a search: from the marks and
the children that say whether there is main content at all, from whether the body
holds the navigation and reads the main content before it, and from the children of
the body before the main content. An audit reports the beginning of that list, as
far as the limit goes (`Auditor.audit_reports_prescribed`).
-/

namespace PageLandmarks

/-! ### The problems that the tree prescribes -/

/-- Main content is missing: several elements are marked as it, or none is and the
body `b` has no child but a head. -/
def Document.LacksMain (d : Document) (b : Element) : Prop :=
  2 ≤ d.elements.countP (fun e => e.tag.marks .main) ∨
    d.elements.countP (fun e => e.tag.marks .main) = 0 ∧ ∀ c ∈ b.elementChildren, c.name = "head"

instance (d : Document) (b : Element) : Decidable (d.LacksMain b) :=
  inferInstanceAs (Decidable (_ ∨ _))

namespace Element

/-- The problem with a navigation beside the main content `m` of the body `b`. -/
def navigationProblem (b m : Element) : Option Element → List Finding
  | none => []
  | some n =>
    if b.Misplaces m.id n.id then
      [⟨.navAfterMain, .information, "Navigation should precede main content",
        some n.tag.label, n.tag.line.map Int.ofNat⟩]
    else []

/-- The problem with the place of the main content `m` among the children of the
body `b`: one may come before it beside a navigation, and none otherwise. -/
def placeProblem (b m : Element) (nav : Option Element) : List Finding :=
  if b.Follows (if nav.isSome then 2 else 1) m.id then
    [⟨.mainNotFirst, .hint, "Main content should appear first", some m.tag.label,
      m.tag.line.map Int.ofNat⟩]
  else []

theorem kind_of_mem_placeProblem {b m : Element} {nav : Option Element} {f : Finding}
    (hf : f ∈ b.placeProblem m nav) : f.kind = .mainNotFirst := by
  unfold placeProblem at hf
  by_cases hplace : b.Follows (if nav.isSome then 2 else 1) m.id
  · rw [if_pos hplace, List.mem_singleton] at hf
    rw [hf]
  · rw [if_neg hplace] at hf
    exact absurd hf List.not_mem_nil

end Element

/-- The problems of a document with the body `b`, the main content and the
navigation, before any limit. -/
def Document.prescribed (d : Document) (b : Element) (main nav : Option Element) :
    List Finding :=
  if d.LacksMain b then
    [⟨.missingMain, .warning, "No primary content landmark detected", none, none⟩]
  else
    match main with
    | none => []
    | some m => b.navigationProblem m nav ++ b.placeProblem m nav

/-! ### The problems that an audit finds -/

/-- All problems of a page for a detector, before any limit. -/
def Page.allProblems (p : Page) (detector : Detector) : List Finding :=
  let main := (Detector.main p).id?
  let nav := (detector.navigation p).id?
  problems p main nav (main.isSome && nav.isSome && p.navBeforeMain main nav)
    (p.mainFirst main nav.isSome)

theorem Page.report_findings (p : Page) (detector : Detector) (limit : Option Int)
    (exclude : Bool) :
    (p.report detector limit exclude).findings =
      cut limit (if exclude then [] else p.allProblems detector) := rfl

theorem Page.report_truncated (p : Page) (detector : Detector) (limit : Option Int)
    (exclude : Bool) :
    (p.report detector limit exclude).truncated =
      decide ((cut limit (if exclude then [] else p.allProblems detector)).length <
        (if exclude then [] else p.allProblems detector).length) := rfl

namespace Page.Fresh

variable {p : Page} {b : Element}

/-- Main content is missing exactly if none is found. -/
theorem mainElement?_eq_none_iff (h : p.Fresh) (hbody : p.bodyElement? = some b) :
    p.mainElement? = none ↔ p.document.LacksMain b := by
  rw [h.mainElement?_eq hbody, chosen_eq_none_iff, longest?_eq_none_iff,
    Element.contentChildren_eq_nil_iff, Document.LacksMain, List.countP_eq_length_filter]
  rfl

theorem not_lacksMain (h : p.Fresh) (hbody : p.bodyElement? = some b) {m : Element}
    (hm : p.mainElement? = some m) : ¬ p.document.LacksMain b := by
  rw [← h.mainElement?_eq_none_iff hbody, hm]
  exact Option.some_ne_none m

theorem mainElement?_mem (h : p.Fresh) (hbody : p.bodyElement? = some b) {m : Element}
    (hm : p.mainElement? = some m) : m ∈ p.document.elements := by
  rw [h.mainElement?_eq hbody] at hm
  exact mem_of_chosen (fun _ => h.longest?_mem hbody) hm

theorem navigationElement?_mem (h : p.Fresh) (hbody : p.bodyElement? = some b)
    {detector : Detector} {n : Element} (hn : p.navigationElement? detector = some n) :
    n ∈ p.document.elements := by
  rw [h.navigationElement?_eq hbody] at hn
  exact mem_of_chosen (fun _ => h.scanned_mem hbody) hn

theorem main_id?_eq (h : p.Fresh) (hbody : p.bodyElement? = some b) :
    (Detector.main p).id? = p.mainElement?.map Element.id := by
  rw [h.main_id? hbody, h.mainElement?_eq hbody]

theorem navigation_id?_eq (h : p.Fresh) (hbody : p.bodyElement? = some b) (detector : Detector) :
    (detector.navigation p).id? = (p.navigationElement? detector).map Element.id := by
  rw [h.navigation_id? hbody, h.navigationElement?_eq hbody]

/-- The check of the navigation objects exactly where the tree does. -/
theorem navigationProblem_eq (h : p.Fresh) (hbody : p.bodyElement? = some b) (m : Element)
    {n : Element} (hn : n ∈ p.document.elements) :
    (if p.navBeforeMain (some m.id) (some n.id) then [] else
      [finding .navAfterMain (p.find? n.id)]) = b.navigationProblem m (some n) := by
  have hiff := navBeforeMain_iff hbody (h.body_distinct hbody) m.id n.id
  have hfind : p.find? n.id = some n := h.find?_of_mem (List.mem_cons_of_mem _ hn)
  rw [hfind, Element.navigationProblem]
  by_cases hmis : b.Misplaces m.id n.id
  · rw [if_pos hmis, if_neg fun hflag => hiff.mp hflag hmis]
    rfl
  · rw [if_neg hmis, if_pos (hiff.mpr hmis)]

/-- The check of the main content objects exactly where the tree does. -/
theorem placeProblem_eq (h : p.Fresh) (hbody : p.bodyElement? = some b) {m : Element}
    (hm : m ∈ p.document.elements) (nav : Option Element) :
    (if p.mainFirst (some m.id) nav.isSome then [] else
      [finding .mainNotFirst (p.find? m.id)]) = b.placeProblem m nav := by
  have hiff := mainFirst_eq_false_iff hbody (h.body_distinct hbody) m.id nav.isSome
  have hfind : p.find? m.id = some m := h.find?_of_mem (List.mem_cons_of_mem _ hm)
  rw [hfind, Element.placeProblem]
  by_cases hplace : b.Follows (if nav.isSome then 2 else 1) m.id
  · rw [if_pos hplace, hiff.mpr hplace]
    rfl
  · rw [if_neg hplace, if_pos (by simpa using mt hiff.mp hplace)]

/-- What is found wrong is what the tree prescribes. -/
theorem allProblems_eq (h : p.Fresh) (hbody : p.bodyElement? = some b) (detector : Detector) :
    p.allProblems detector =
      p.document.prescribed b p.mainElement? (p.navigationElement? detector) := by
  unfold allProblems Document.prescribed
  rw [h.main_id?_eq hbody, h.navigation_id?_eq hbody]
  cases hm : p.mainElement? with
  | none =>
      rw [if_pos ((h.mainElement?_eq_none_iff hbody).mp hm)]
      rfl
  | some m =>
      rw [if_neg (h.not_lacksMain hbody hm)]
      have hplace := h.placeProblem_eq hbody (h.mainElement?_mem hbody hm)
      cases hn : p.navigationElement? detector with
      | none => exact hplace none
      | some n =>
          have hnav := h.navigationProblem_eq hbody m (h.navigationElement?_mem hbody hn)
          exact congrArg₂ (· ++ ·) hnav (hplace (some n))

end Page.Fresh

/-! ### The report -/

/-- **An audit reports what the tree prescribes**, up to the limit and unless
problems are excluded, and says if there is more. -/
theorem Auditor.audit_reports_prescribed {a : Auditor} {html : String} {p : Page} {k c : Int}
    (limit : Option Limit) (exclude : Option Bool) (hread : Page.read a.reader html = .ok p)
    (hk : a.threshold = .links k) (hc : limit.getD a.limit = .atMost c) (hc0 : 0 ≤ c) :
    ∃ report notes b F, a.audit html limit exclude = .ok (report, notes) ∧
      p.bodyElement? = some b ∧
      (Detector.main p).id? = p.mainElement?.map Element.id ∧
      (Detector.navigation ⟨k⟩ p).id? = (p.navigationElement? ⟨k⟩).map Element.id ∧
      (p.mainElement? = none ↔ p.document.LacksMain b) ∧
      F = p.document.prescribed b p.mainElement? (p.navigationElement? ⟨k⟩) ∧
      report.findings = (if exclude.getD a.exclude then [] else F.take c.toNat) ∧
      (report.truncated = true ↔ exclude.getD a.exclude = false ∧ c < F.length) := by
  have hfresh := Page.fresh_of_read hread
  obtain ⟨b, hbody⟩ := hfresh.exists_body
  obtain ⟨notes, haudit⟩ := Auditor.audit_eq_ok hread hk hc exclude
  refine ⟨_, notes, b, _, haudit, hbody, hfresh.main_id?_eq hbody,
    hfresh.navigation_id?_eq hbody ⟨k⟩, hfresh.mainElement?_eq_none_iff hbody,
    (hfresh.allProblems_eq hbody ⟨k⟩), ?_, ?_⟩
  · rw [Page.report_findings]
    cases exclude.getD a.exclude with
    | true => rfl
    | false => exact cut_of_nonneg hc0 _
  · rw [Page.report_truncated]
    cases exclude.getD a.exclude with
    | true => simp
    | false =>
        simp only [Bool.false_eq_true, if_false, cut_of_nonneg hc0, List.length_take,
          decide_eq_true_eq, true_and]
        omega

/-- This page has two problems, and a limit of one leaves the first. -/
theorem Auditor.audit_reports_first_prescribed :
    ∃ p report notes,
      Page.read ({} : Auditor).reader "<p></p><p></p><main></main><nav></nav>" = .ok p ∧
      ({} : Auditor).audit "<p></p><p></p><main></main><nav></nav>" (some (.atMost 1)) none =
        .ok (report, notes) ∧
      report.findings.map Finding.kind = [.navAfterMain] ∧ report.truncated = true := by
  obtain ⟨p, hread, hkinds⟩ : ∃ p,
      Page.read ({} : Auditor).reader "<p></p><p></p><main></main><nav></nav>" = .ok p ∧
      decide ((p.bodyElement?.map fun b =>
        (p.document.prescribed b p.mainElement? (p.navigationElement? ⟨3⟩)).map Finding.kind) =
          some [.navAfterMain, .mainNotFirst]) = true :=
    exists_ok_of_any (by decide +kernel)
  obtain ⟨report, notes, b, F, haudit, hbody, -, -, -, hF, hfindings, htruncated⟩ :=
    Auditor.audit_reports_prescribed (some (.atMost 1)) none hread rfl rfl (by decide)
  have hF' : F.map Finding.kind = [.navAfterMain, .mainNotFirst] := by
    rw [hbody] at hkinds
    rw [hF]
    simpa using hkinds
  refine ⟨p, report, notes, hread, haudit, ?_, ?_⟩
  · have hexclude : (none : Option Bool).getD ({} : Auditor).exclude = false := rfl
    rw [hfindings, hexclude, if_neg Bool.false_ne_true, List.map_take, hF']
    rfl
  · have hlen : F.length = 2 := by simpa using congrArg List.length hF'
    exact htruncated.mpr ⟨rfl, by omega⟩

end PageLandmarks

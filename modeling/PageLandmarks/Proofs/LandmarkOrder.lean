import PageLandmarks.Proofs.Findings

/-!
# PageLandmarks.Proofs.LandmarkOrder

**Where the order of the landmarks is that of the document.** Marked landmarks are
looked for in the whole document, but their order is judged by a walk through the
body, and a landmark outside the body is never reached on it. The verdict is that of
the reading order of the document exactly if the landmark that is read first is one
that the walk can reach (`Element.Judges`): a navigation that comes first has to lie
in the body, and so has main content that comes before a navigation of the body.

Nor is there a test for one element that is both landmarks. The walk finds it in
order with itself if it reaches it, and reports it otherwise.
-/

namespace PageLandmarks

/-! ### The body and the whole document -/

namespace Element

/-- The body `b` can tell the order that the tree of `root` reads the two landmarks
in. -/
def Judges (b root : Element) (main nav : ElementId) : Prop :=
  (root.Reads nav main → b.Holds nav) ∧ (root.Reads main nav → b.Holds nav → b.Holds main)

instance (b root : Element) (main nav : ElementId) : Decidable (b.Judges root main nav) :=
  inferInstanceAs (Decidable (_ ∧ _))

variable {b root : Element} {main nav : ElementId}

/-- A navigation of the body is out of order if the body has the main content too
and the document reads that first. -/
theorem Distinct.misplaces_iff (hd : root.Distinct) (hb : b ∈ root.preorder) :
    b.Misplaces main nav ↔ ¬ b.Holds nav ∨ b.Holds main ∧ root.Reads main nav := by
  constructor
  · rintro (hout | hreads)
    · exact Or.inl hout
    · exact Or.inr ⟨hreads.left, hreads.of_subtree hb⟩
  · rintro (hout | ⟨hmain, hreads⟩)
    · exact Or.inl hout
    · by_cases hnav : b.Holds nav
      · exact Or.inr ((hd.reads_iff hb hmain hnav).mpr hreads)
      · exact Or.inl hnav

/-- The verdict of the body is the order of the document exactly if the body can
tell it. -/
theorem Distinct.not_misplaces_iff_iff (hd : root.Distinct) (hb : b ∈ root.preorder)
    (hmain : root.Holds main) (hnav : root.Holds nav) (hne : main ≠ nav) :
    (¬ b.Misplaces main nav ↔ root.Reads nav main) ↔ b.Judges root main nav := by
  have horder := hd.not_reads_iff hmain hnav hne
  rw [hd.misplaces_iff hb, Judges, ← horder]
  by_cases hin : b.Holds nav
  · by_cases hmainIn : b.Holds main
    · simp [hin, hmainIn]
    · -- main content outside the body never counts as coming first
      simp [hin, hmainIn]
  · -- a navigation outside the body never does
    simp [hin]

theorem Distinct.misplaces_iff_iff (hd : root.Distinct) (hb : b ∈ root.preorder)
    (hmain : root.Holds main) (hnav : root.Holds nav) (hne : main ≠ nav) :
    (b.Misplaces main nav ↔ root.Reads main nav) ↔ b.Judges root main nav := by
  rw [← hd.not_misplaces_iff_iff hb hmain hnav hne, ← hd.not_reads_iff hmain hnav hne,
    not_iff_not]

/-- An element is out of order with itself exactly if it is outside the body. -/
theorem Distinct.misplaces_self_iff (hd : b.Distinct) (id : ElementId) :
    b.Misplaces id id ↔ ¬ b.Holds id :=
  or_iff_left (hd.not_reads_self id)

theorem Follows.holds {count : Nat} {id : ElementId} (h : b.Follows count id) : b.Holds id := by
  obtain ⟨before, child, after, hsplit, rfl, -⟩ := h
  exact holds_of_mem (mem_preorder_of_mem_content (hsplit ▸ by simp))

end Element

/-! ### Reports of a navigation out of order -/

/-- The report has a problem of this kind. -/
def Report.Reports (r : Report) (kind : FindingKind) : Prop := ∃ f ∈ r.findings, f.kind = kind

instance (r : Report) (kind : FindingKind) : Decidable (r.Reports kind) :=
  inferInstanceAs (Decidable (∃ f ∈ r.findings, f.kind = kind))

namespace Page.Fresh

variable {p : Page} {b m n : Element} {detector : Detector}

/-- The problems of a page on which both landmarks are found. -/
theorem allProblems_of_found (h : p.Fresh) (hbody : p.bodyElement? = some b)
    (hm : p.mainElement? = some m) (hn : p.navigationElement? detector = some n) :
    p.allProblems detector = b.navigationProblem m (some n) ++ b.placeProblem m (some n) := by
  rw [h.allProblems_eq hbody, hm, hn, Document.prescribed, if_neg (h.not_lacksMain hbody hm)]

theorem report_navBeforeMain_iff (h : p.Fresh) (hbody : p.bodyElement? = some b)
    (hm : p.mainElement? = some m) (hn : p.navigationElement? detector = some n)
    (limit : Option Int) (exclude : Bool) :
    (p.report detector limit exclude).navBeforeMain = true ↔ ¬ b.Misplaces m.id n.id := by
  have hflag : (p.report detector limit exclude).navBeforeMain =
      p.navBeforeMain (some m.id) (some n.id) := by
    simp only [report, h.main_id?_eq hbody, h.navigation_id?_eq hbody, hm, hn]
    rfl
  rw [hflag]
  exact navBeforeMain_iff hbody (h.body_distinct hbody) m.id n.id

/-- The problem with the navigation stands first, so it is among the problems
reported as soon as any is. -/
theorem reports_navAfterMain_iff (h : p.Fresh) (hbody : p.bodyElement? = some b)
    (hm : p.mainElement? = some m) (hn : p.navigationElement? detector = some n)
    (limit : Option Int) (exclude : Bool) :
    (p.report detector limit exclude).Reports .navAfterMain ↔
      b.Misplaces m.id n.id ∧ (p.report detector limit exclude).findings ≠ [] := by
  unfold Report.Reports
  rw [report_findings, h.allProblems_of_found hbody hm hn]
  cases exclude with
  | true =>
      obtain ⟨count, hcut⟩ := exists_cut_eq_take limit ([] : List Finding)
      simp [hcut]
  | false =>
      obtain ⟨count, hcut⟩ := exists_cut_eq_take limit
        (b.navigationProblem m (some n) ++ b.placeProblem m (some n))
      rw [if_neg Bool.false_ne_true, hcut]
      by_cases hmis : b.Misplaces m.id n.id
      · rw [Element.navigationProblem, if_pos hmis]
        cases count with
        | zero => simp
        | succ count => simp [hmis]
      · -- what is left is about the main content
        rw [Element.navigationProblem, if_neg hmis, List.nil_append]
        refine iff_of_false ?_ fun hrep => hmis hrep.1
        rintro ⟨f, hf, hfk⟩
        rw [Element.kind_of_mem_placeProblem (List.mem_of_mem_take hf)] at hfk
        cases hfk

/-- A limit of one is enough for the problem with the navigation. -/
theorem findings_ne_nil_of_misplaces (h : p.Fresh) (hbody : p.bodyElement? = some b)
    (hm : p.mainElement? = some m) (hn : p.navigationElement? detector = some n)
    (hmis : b.Misplaces m.id n.id) {c : Int} (hc : 1 ≤ c) :
    (p.report detector (some c) false).findings ≠ [] := by
  rw [report_findings, h.allProblems_of_found hbody hm hn, if_neg Bool.false_ne_true,
    cut_of_nonneg (by omega), Element.navigationProblem, if_pos hmis]
  simp only [List.cons_append, ne_eq, List.take_eq_nil_iff, reduceCtorEq, or_false]
  omega

/-- Outside the body, an element that is both landmarks is the only problem. -/
theorem allProblems_length_of_shared (h : p.Fresh) (hbody : p.bodyElement? = some b)
    (hm : p.mainElement? = some m) (hn : p.navigationElement? detector = some m)
    (hout : ¬ b.Holds m.id) : (p.allProblems detector).length = 1 := by
  have hmis : b.Misplaces m.id m.id := Or.inl hout
  rw [h.allProblems_of_found hbody hm hn, Element.navigationProblem, if_pos hmis,
    Element.placeProblem, if_neg fun hfollows => hout hfollows.holds]
  rfl

end Page.Fresh

/-! ### The landmarks of an audit -/

namespace Auditor

variable {a : Auditor} {html : String} {p : Page} {k c : Int}

/-- **The order of two landmarks is judged under the body**: a navigation comes first
if the body has it and does not read the main content before it. That is the reading
order of the document exactly if the body can tell it; then a navigation is reported
only if it comes after the main content, and always if problems are reported at
all. -/
theorem audit_judges_order_iff {m n : Element} (limit : Option Limit) (exclude : Option Bool)
    (hread : Page.read a.reader html = .ok p) (hk : a.threshold = .links k)
    (hc : limit.getD a.limit = .atMost c) (hm : p.mainElement? = some m)
    (hn : p.navigationElement? ⟨k⟩ = some n) (hne : m.id ≠ n.id) :
    ∃ report notes b, a.audit html limit exclude = .ok (report, notes) ∧
      p.bodyElement? = some b ∧
      (report.navBeforeMain = true ↔ b.Holds n.id ∧ ¬ b.Reads m.id n.id) ∧
      ((report.navBeforeMain = true ↔ p.document.root.Reads n.id m.id) ↔
        b.Judges p.document.root m.id n.id) ∧
      (b.Judges p.document.root m.id n.id → report.Reports .navAfterMain →
        p.document.root.Reads m.id n.id) ∧
      (exclude.getD a.exclude = false → 1 ≤ c →
        ((report.Reports .navAfterMain ↔ p.document.root.Reads m.id n.id) ↔
          b.Judges p.document.root m.id n.id)) := by
  have hfresh := Page.fresh_of_read hread
  obtain ⟨b, hbody⟩ := hfresh.exists_body
  obtain ⟨notes, haudit⟩ := audit_eq_ok hread hk hc exclude
  have hmain := Element.holds_of_mem
    (List.mem_cons_of_mem p.document.root (hfresh.mainElement?_mem hbody hm))
  have hnav := Element.holds_of_mem
    (List.mem_cons_of_mem p.document.root (hfresh.navigationElement?_mem hbody hn))
  have hmis := hfresh.distinct.root.misplaces_iff_iff (hfresh.body_mem hbody) hmain hnav hne
  refine ⟨_, notes, b, haudit, hbody, ?_, ?_, ?_, ?_⟩
  · rw [hfresh.report_navBeforeMain_iff hbody hm hn, Element.Misplaces, not_or, not_not]
  · rw [hfresh.report_navBeforeMain_iff hbody hm hn]
    exact hfresh.distinct.root.not_misplaces_iff_iff (hfresh.body_mem hbody) hmain hnav hne
  · intro hjudges hrep
    rw [hfresh.reports_navAfterMain_iff hbody hm hn] at hrep
    exact (hmis.mpr hjudges).mp hrep.1
  · intro hexclude hc1
    rw [← hmis, hfresh.reports_navAfterMain_iff hbody hm hn, hexclude,
      if_neg Bool.false_ne_true,
      and_iff_left_of_imp fun h => hfresh.findings_ne_nil_of_misplaces hbody hm hn h hc1]

/-- The body of this page has both landmarks, so it can tell their order. -/
theorem audit_judges_order_in_body :
    ∃ p m n report notes,
      Page.read ({} : Auditor).reader "<body><main></main><nav></nav></body>" = .ok p ∧
      p.mainElement? = some m ∧ p.navigationElement? ⟨3⟩ = some n ∧ m.id ≠ n.id ∧
      ({} : Auditor).audit "<body><main></main><nav></nav></body>" none none =
        .ok (report, notes) ∧
      (report.navBeforeMain = true ↔ p.document.root.Reads n.id m.id) := by
  obtain ⟨p, hread, hplaces⟩ : ∃ p,
      Page.read ({} : Auditor).reader "<body><main></main><nav></nav></body>" = .ok p ∧
      (p.mainElement?.any fun m => (p.navigationElement? ⟨3⟩).any fun n => p.bodyElement?.any
        fun b => decide (m.id ≠ n.id ∧ b.Judges p.document.root m.id n.id)) = true :=
    exists_ok_of_any (by decide +kernel)
  obtain ⟨m, hm, hplaces⟩ := (Option.any_eq_true _ _).mp hplaces
  obtain ⟨n, hn, hplaces⟩ := (Option.any_eq_true _ _).mp hplaces
  obtain ⟨b, hb, hplaces⟩ := (Option.any_eq_true _ _).mp hplaces
  obtain ⟨hne, hjudges⟩ := of_decide_eq_true hplaces
  obtain ⟨report, notes, b', haudit, hb', -, horder, -⟩ :=
    audit_judges_order_iff none none hread rfl rfl hm hn hne
  obtain rfl := Option.some.inj (hb.symm.trans hb')
  exact ⟨p, m, n, report, notes, hread, hm, hn, hne, haudit, horder.mpr hjudges⟩

/-- A navigation ahead of the body is reported as coming after the main content,
and the flag denies the order that the document has. -/
theorem audit_reports_nav_ahead_of_body :
    ∃ p m n report notes,
      Page.read ({} : Auditor).reader "<nav></nav><body><main></main></body>" = .ok p ∧
      p.mainElement? = some m ∧ p.navigationElement? ⟨3⟩ = some n ∧ m.id ≠ n.id ∧
      p.document.root.Reads n.id m.id ∧
      ({} : Auditor).audit "<nav></nav><body><main></main></body>" none none =
        .ok (report, notes) ∧
      report.navBeforeMain = false ∧ report.Reports .navAfterMain := by
  obtain ⟨p, hread, hplaces⟩ : ∃ p,
      Page.read ({} : Auditor).reader "<nav></nav><body><main></main></body>" = .ok p ∧
      (p.mainElement?.any fun m => (p.navigationElement? ⟨3⟩).any fun n =>
        decide (m.id ≠ n.id ∧ p.document.root.Reads n.id m.id)) = true :=
    exists_ok_of_any (by decide +kernel)
  obtain ⟨m, hm, hplaces⟩ := (Option.any_eq_true _ _).mp hplaces
  obtain ⟨n, hn, hplaces⟩ := (Option.any_eq_true _ _).mp hplaces
  obtain ⟨hne, hreads⟩ := of_decide_eq_true hplaces
  obtain ⟨⟨report, notes⟩, haudit, hreport⟩ : ∃ r,
      ({} : Auditor).audit "<nav></nav><body><main></main></body>" none none = .ok r ∧
      decide (r.1.navBeforeMain = false ∧ r.1.Reports .navAfterMain) = true :=
    exists_ok_of_any (by decide +kernel)
  exact ⟨p, m, n, report, notes, hread, hm, hn, hne, hreads, haudit, of_decide_eq_true hreport⟩

/-- **One element that is both landmarks is out of order with itself exactly if it
is outside the body.** It is reported then, if problems are. -/
theorem audit_reports_shared_iff {e : Element} (limit : Option Limit) (exclude : Option Bool)
    (hread : Page.read a.reader html = .ok p) (hk : a.threshold = .links k)
    (hc : limit.getD a.limit = .atMost c) (hm : p.mainElement? = some e)
    (hn : p.navigationElement? ⟨k⟩ = some e) :
    ∃ report notes b, a.audit html limit exclude = .ok (report, notes) ∧
      p.bodyElement? = some b ∧
      (report.Reports .navAfterMain ↔
        exclude.getD a.exclude = false ∧ 1 ≤ c ∧ ¬ b.Holds e.id) := by
  have hfresh := Page.fresh_of_read hread
  obtain ⟨b, hbody⟩ := hfresh.exists_body
  obtain ⟨notes, haudit⟩ := audit_eq_ok hread hk hc exclude
  have hself := (hfresh.body_distinct hbody).misplaces_self_iff e.id
  refine ⟨_, notes, b, haudit, hbody, ?_⟩
  rw [hfresh.reports_navAfterMain_iff hbody hm hn, hself]
  cases exclude.getD a.exclude with
  | true => simp [Page.report_findings, cut]
  | false =>
      constructor
      · rintro ⟨hout, hfound⟩
        refine ⟨rfl, ?_, hout⟩
        -- a limit below one leaves nothing of a single problem
        by_contra hlt
        have hlen := hfresh.allProblems_length_of_shared hbody hm hn hout
        refine hfound (List.eq_nil_of_length_eq_zero ?_)
        rw [Page.report_findings, if_neg Bool.false_ne_true, if_neg Bool.false_ne_true,
          length_cut, hlen]
        split <;> omega
      · rintro ⟨-, hc1, hout⟩
        exact ⟨hout, hfresh.findings_ne_nil_of_misplaces hbody hm hn (hself.mpr hout) hc1⟩

/-- The element that is both landmarks of this page is in its body. -/
theorem audit_passes_shared_in_body :
    ∃ p e report notes,
      Page.read ({} : Auditor).reader "<p role='main navigation'></p>" = .ok p ∧
      p.mainElement? = some e ∧ p.navigationElement? ⟨3⟩ = some e ∧
      ({} : Auditor).audit "<p role='main navigation'></p>" none none = .ok (report, notes) ∧
      ¬ report.Reports .navAfterMain := by
  obtain ⟨p, hread, hshared⟩ : ∃ p,
      Page.read ({} : Auditor).reader "<p role='main navigation'></p>" = .ok p ∧
      (p.mainElement?.any fun e => p.bodyElement?.any fun b =>
        decide ((Detector.main p).id? = (Detector.navigation ⟨3⟩ p).id? ∧ b.Holds e.id)) = true :=
    exists_ok_of_any (by decide +kernel)
  obtain ⟨e, he, hshared⟩ := (Option.any_eq_true _ _).mp hshared
  obtain ⟨b, hb, hshared⟩ := (Option.any_eq_true _ _).mp hshared
  obtain ⟨hid, hholds⟩ := of_decide_eq_true hshared
  have hnav : p.navigationElement? ⟨3⟩ = some e := by rw [Page.navigationElement?, ← hid]; exact he
  obtain ⟨report, notes, b', haudit, hb', hiff⟩ :=
    audit_reports_shared_iff none none hread rfl rfl he hnav
  obtain rfl := Option.some.inj (hb.symm.trans hb')
  exact ⟨p, e, report, notes, hread, he, hnav, haudit, fun hrep => (hiff.mp hrep).2.2 hholds⟩

/-- An element outside the body that is both landmarks is reported as coming after
itself. -/
theorem audit_reports_shared_outside_body :
    ∃ p e report notes,
      Page.read ({} : Auditor).reader "<p role='main navigation'></p><body></body>" = .ok p ∧
      p.mainElement? = some e ∧ p.navigationElement? ⟨3⟩ = some e ∧
      ({} : Auditor).audit "<p role='main navigation'></p><body></body>" none none =
        .ok (report, notes) ∧
      report.Reports .navAfterMain := by
  obtain ⟨p, hread, hshared⟩ : ∃ p,
      Page.read ({} : Auditor).reader "<p role='main navigation'></p><body></body>" = .ok p ∧
      (p.mainElement?.any fun _ =>
        decide ((Detector.main p).id? = (Detector.navigation ⟨3⟩ p).id?)) = true :=
    exists_ok_of_any (by decide +kernel)
  obtain ⟨e, he, hshared⟩ := (Option.any_eq_true _ _).mp hshared
  have hnav : p.navigationElement? ⟨3⟩ = some e := by
    rw [Page.navigationElement?, ← of_decide_eq_true hshared]
    exact he
  obtain ⟨⟨report, notes⟩, haudit, hreport⟩ : ∃ r,
      ({} : Auditor).audit "<p role='main navigation'></p><body></body>" none none = .ok r ∧
      decide (r.1.Reports .navAfterMain) = true :=
    exists_ok_of_any (by decide +kernel)
  exact ⟨p, e, report, notes, hread, he, hnav, haudit, of_decide_eq_true hreport⟩

end Auditor

end PageLandmarks

import PageLandmarks.Audit
import PageLandmarks.Proofs.Detection

/-!
# PageLandmarks.Proofs.Audit

**What an audit says about the landmarks it has found.** A page that can be read
and a limit that is a number give a report (`Auditor.audit_eq_ok`), and the
landmarks in it are the elements found, described one by one.

The search goes by the marks noted when the page was read, while the description of
a landmark looks at its element again. Both agree about the whole document
(`Auditor.audit_tells_marks`): a landmark is called explicit exactly if it is the
one marked element, and inferred only if no element is marked.
-/

namespace PageLandmarks

/-! ### From an audit to its report -/

/-- An audit of a page that can be read ends in a report, if the limit can be used. -/
theorem Auditor.audit_eq_ok_of_bound {a : Auditor} {html : String} {p : Page} {k : Int}
    {limit : Option Limit} {bound : Option Int} (hread : Page.read a.reader html = .ok p)
    (hk : a.threshold = .links k) (hbound : (limit.getD a.limit).bound = .ok bound)
    (exclude : Option Bool) :
    ∃ notes, a.audit html limit exclude =
      .ok (p.report ⟨k⟩ (if exclude.getD a.exclude then none else bound)
        (exclude.getD a.exclude), notes) := by
  unfold Auditor.audit
  rw [hread, hk, hbound]
  cases exclude.getD a.exclude with
  | true => exact ⟨_, rfl⟩
  | false => exact ⟨_, rfl⟩

/-- An audit of a page that can be read ends in a report, up to a limit that is a number. -/
theorem Auditor.audit_eq_ok {a : Auditor} {html : String} {p : Page} {k c : Int}
    {limit : Option Limit} (hread : Page.read a.reader html = .ok p)
    (hk : a.threshold = .links k) (hc : limit.getD a.limit = .atMost c) (exclude : Option Bool) :
    ∃ notes, a.audit html limit exclude =
      .ok (p.report ⟨k⟩ (if exclude.getD a.exclude then none else some c) (exclude.getD a.exclude),
        notes) :=
  Auditor.audit_eq_ok_of_bound hread hk (by rw [hc]; rfl) exclude

/-- The description of an element as a landmark, marked or inferred. -/
def Element.asLandmark (e : Element) (explicit : Bool) : LandmarkInfo :=
  ⟨e.name, e.tag.label, e.tag.line.map Int.ofNat, explicit⟩

theorem Page.report_main (p : Page) (detector : Detector) (limit : Option Int) (exclude : Bool) :
    (p.report detector limit exclude).main =
      p.mainElement?.map fun e => e.asLandmark (e.tag.marks .main) := rfl

theorem Page.report_navigation (p : Page) (detector : Detector) (limit : Option Int)
    (exclude : Bool) :
    (p.report detector limit exclude).navigation =
      (p.navigationElement? detector).map fun e => e.asLandmark (e.tag.marks .navigation) := rfl

/-! ### Marks of the whole document -/

namespace Document

/-- The element is the only one of the document that is marked as the landmark. -/
def OnlyMarked (d : Document) (landmark : Landmark) (e : Element) : Prop :=
  e ∈ d.elements ∧ e.tag.marks landmark = true ∧
    ∀ f ∈ d.elements, f.tag.marks landmark = true → f = e

/-- No element of the document is marked as the landmark. -/
def Unmarked (d : Document) (landmark : Landmark) : Prop :=
  ∀ e ∈ d.elements, e.tag.marks landmark = false

instance (d : Document) (landmark : Landmark) : Decidable (d.Unmarked landmark) :=
  inferInstanceAs (Decidable (∀ e ∈ d.elements, e.tag.marks landmark = false))

variable {d : Document} {landmark : Landmark}

theorem markedAs_eq_nil_iff : d.markedAs landmark = [] ↔ d.Unmarked landmark := by
  simp [markedAs, Unmarked, List.filter_eq_nil_iff]

/-- Where no element is listed twice, a single entry in the list of the marked ones
is the only marked element. -/
theorem markedAs_eq_singleton_iff (hnd : d.elements.Nodup) {e : Element} :
    d.markedAs landmark = [e] ↔ d.OnlyMarked landmark e := by
  have hmem : ∀ f, f ∈ d.markedAs landmark ↔ f ∈ d.elements ∧ f.tag.marks landmark = true :=
    fun f => List.mem_filter
  constructor
  · intro h
    simp only [h, List.mem_singleton] at hmem
    obtain ⟨he, hmarks⟩ := (hmem e).mp rfl
    exact ⟨he, hmarks, fun f hf hfm => (hmem f).mpr ⟨hf, hfm⟩⟩
  · rintro ⟨he, hmarks, honly⟩
    have hnd' : (d.markedAs landmark).Nodup := hnd.filter _
    have hall : ∀ f ∈ d.markedAs landmark, f = e := fun f hf =>
      honly f ((hmem f).mp hf).1 ((hmem f).mp hf).2
    have hin : e ∈ d.markedAs landmark := (hmem e).mpr ⟨he, hmarks⟩
    match hes : d.markedAs landmark with
    | [] => rw [hes] at hin; exact absurd hin List.not_mem_nil
    | [f] => rw [hall f (by simp [hes])]
    | f :: g :: fs =>
        rw [hes] at hnd' hall
        have hfg : f = g := (hall f (by simp)).trans (hall g (by simp)).symm
        exact absurd hfg (by simp at hnd'; exact hnd'.1.1)

/-- What is chosen is marked exactly if it is the only marked element. -/
theorem chosen_marked_iff (hnd : d.elements.Nodup) {inferred : Option Element}
    (hinferred : ∀ e, inferred = some e → e ∈ d.elements) {e : Element} :
    chosen (d.markedAs landmark) inferred = some e ∧ e.tag.marks landmark = true ↔
      d.OnlyMarked landmark e := by
  rw [chosen_eq_some_iff, markedAs_eq_singleton_iff hnd, markedAs_eq_nil_iff]
  constructor
  · rintro ⟨honly | ⟨hnone, hinf⟩, hmarks⟩
    · exact honly
    · exact absurd hmarks (by rw [hnone e (hinferred e hinf)]; simp)
  · intro honly
    exact ⟨Or.inl honly, honly.2.1⟩

/-- What is chosen is unmarked exactly if it is inferred where nothing is
marked. -/
theorem chosen_unmarked_iff (hnd : d.elements.Nodup) {inferred : Option Element}
    (hinferred : ∀ e, inferred = some e → e ∈ d.elements) {e : Element} :
    chosen (d.markedAs landmark) inferred = some e ∧ e.tag.marks landmark = false ↔
      d.Unmarked landmark ∧ inferred = some e := by
  rw [chosen_eq_some_iff, markedAs_eq_singleton_iff hnd, markedAs_eq_nil_iff]
  constructor
  · rintro ⟨honly | hinf, hmarks⟩
    · exact absurd honly.2.1 (by rw [hmarks]; simp)
    · exact hinf
  · rintro ⟨hnone, hinf⟩
    exact ⟨Or.inr ⟨hnone, hinf⟩, hnone e (hinferred e hinf)⟩

/-- Of two marked elements none is chosen. -/
theorem chosen_eq_none_of_two {inferred : Option Element} {e f : Element} (he : e ∈ d.elements)
    (hf : f ∈ d.elements) (hne : e ≠ f) (hem : e.tag.marks landmark = true)
    (hfm : f.tag.marks landmark = true) : chosen (d.markedAs landmark) inferred = none := by
  have hein : e ∈ d.markedAs landmark := List.mem_filter.mpr ⟨he, hem⟩
  have hfin : f ∈ d.markedAs landmark := List.mem_filter.mpr ⟨hf, hfm⟩
  match hes : d.markedAs landmark with
  | [] => rw [hes] at hein; exact absurd hein List.not_mem_nil
  | [g] =>
      rw [hes, List.mem_singleton] at hein hfin
      exact absurd (hein.trans hfin.symm) hne
  | _ :: _ :: _ => rfl

/-- The description of what is chosen says explicit exactly if it is the only marked
element. -/
theorem described_explicit_iff (landmark : Landmark) (hnd : d.elements.Nodup)
    {inferred : Option Element} (hinferred : ∀ e, inferred = some e → e ∈ d.elements)
    (info : LandmarkInfo) :
    ((chosen (d.markedAs landmark) inferred).map fun e => e.asLandmark (e.tag.marks landmark)) =
        some info ∧ info.explicit = true ↔
      ∃ e, d.OnlyMarked landmark e ∧ info = e.asLandmark true := by
  rw [Option.map_eq_some_iff]
  constructor
  · rintro ⟨⟨e, he, rfl⟩, hexplicit⟩
    have hmarks : e.tag.marks landmark = true := hexplicit
    exact ⟨e, (chosen_marked_iff hnd hinferred).mp ⟨he, hmarks⟩, by rw [hmarks]⟩
  · rintro ⟨e, honly, rfl⟩
    obtain ⟨he, hmarks⟩ := (chosen_marked_iff hnd hinferred).mpr honly
    exact ⟨⟨e, he, by rw [hmarks]⟩, rfl⟩

theorem described_inferred_iff (landmark : Landmark) (hnd : d.elements.Nodup)
    {inferred : Option Element} (hinferred : ∀ e, inferred = some e → e ∈ d.elements) :
    (∃ info, ((chosen (d.markedAs landmark) inferred).map fun e =>
        e.asLandmark (e.tag.marks landmark)) = some info ∧ info.explicit = false) ↔
      d.Unmarked landmark ∧ inferred ≠ none := by
  simp only [Option.map_eq_some_iff, Option.ne_none_iff_exists']
  constructor
  · rintro ⟨_, ⟨e, he, rfl⟩, hmarks⟩
    obtain ⟨hnone, hinf⟩ := (chosen_unmarked_iff hnd hinferred).mp ⟨he, hmarks⟩
    exact ⟨hnone, e, hinf⟩
  · rintro ⟨hnone, e, hinf⟩
    obtain ⟨he, hmarks⟩ := (chosen_unmarked_iff hnd hinferred).mpr ⟨hnone, hinf⟩
    exact ⟨_, ⟨e, he, rfl⟩, hmarks⟩

end Document

/-! ### The explicit flag -/

/-- What a report says about its landmarks agrees with the marks of the whole
document, `b` being its body. -/
structure Report.TellsMarks (r : Report) (d : Document) (b : Element) : Prop where
  /-- Explicit main content is the one marked element. -/
  main_explicit : ∀ info, r.main = some info ∧ info.explicit = true ↔
    ∃ e, d.OnlyMarked .main e ∧ info = e.asLandmark true
  /-- Main content is inferred if nothing is marked and the body has a child. -/
  main_inferred : (∃ info, r.main = some info ∧ info.explicit = false) ↔
    d.Unmarked .main ∧ ∃ c ∈ b.elementChildren, c.name ≠ "head"
  /-- Otherwise there is none. -/
  main_none : r.main = none ↔
    ¬ (∃ e, d.OnlyMarked .main e) ∧
      ¬ (d.Unmarked .main ∧ ∃ c ∈ b.elementChildren, c.name ≠ "head")
  /-- An explicit navigation is the one marked element. -/
  navigation_explicit : ∀ info, r.navigation = some info ∧ info.explicit = true ↔
    ∃ e, d.OnlyMarked .navigation e ∧ info = e.asLandmark true
  /-- Of several marked elements none is the navigation. -/
  navigation_several : ∀ e ∈ d.elements, ∀ f ∈ d.elements, e ≠ f →
    e.tag.marks .navigation = true → f.tag.marks .navigation = true → r.navigation = none
  /-- A navigation is inferred only if nothing is marked. -/
  navigation_inferred : ∀ info, r.navigation = some info → info.explicit = false →
    d.Unmarked .navigation

theorem Element.longest?_content_ne_none_iff {b : Element} :
    longest? b.contentChildren ≠ none ↔ ∃ c ∈ b.elementChildren, c.name ≠ "head" := by
  rw [ne_eq, longest?_eq_none_iff, contentChildren_eq_nil_iff]
  push Not
  rfl

/-- A landmark is explicit, inferred or not there. -/
theorem LandmarkInfo.eq_none_iff {found : Option LandmarkInfo} :
    found = none ↔ ¬ (∃ info, found = some info ∧ info.explicit = true) ∧
      ¬ (∃ info, found = some info ∧ info.explicit = false) := by
  cases found with
  | none => simp
  | some info => cases hexplicit : info.explicit <;> simp [hexplicit]

theorem Page.Fresh.report_tellsMarks {p : Page} (h : p.Fresh) {b : Element}
    (hbody : p.bodyElement? = some b) (detector : Detector) (limit : Option Int)
    (exclude : Bool) :
    (p.report detector limit exclude).TellsMarks p.document b := by
  have hnd := h.elements_nodup
  have hmain : ∀ e, longest? b.contentChildren = some e → e ∈ p.document.elements :=
    fun e => h.longest?_mem hbody
  have hnav : ∀ e, scanned b detector = some e → e ∈ p.document.elements :=
    fun e => h.scanned_mem hbody
  have hexplicit := Document.described_explicit_iff .main hnd hmain
  have hinferred := Document.described_inferred_iff .main hnd hmain
  rw [← h.mainElement?_eq hbody, ← report_main p detector limit exclude] at hexplicit hinferred
  rw [Element.longest?_content_ne_none_iff] at hinferred
  have hnavEq := h.navigationElement?_eq hbody detector
  refine ⟨hexplicit, hinferred, ?_, ?_, ?_, ?_⟩
  · have hsome : (∃ info, (p.report detector limit exclude).main = some info ∧
        info.explicit = true) ↔ ∃ e, p.document.OnlyMarked .main e := by
      constructor
      · rintro ⟨info, hinfo⟩
        obtain ⟨e, honly, -⟩ := (hexplicit info).mp hinfo
        exact ⟨e, honly⟩
      · rintro ⟨e, honly⟩
        exact ⟨_, (hexplicit _).mpr ⟨e, honly, rfl⟩⟩
    rw [LandmarkInfo.eq_none_iff, hinferred, hsome]
  · rw [report_navigation, hnavEq]
    exact Document.described_explicit_iff .navigation hnd hnav
  · intro e he f hf hne hem hfm
    rw [report_navigation, hnavEq, Document.chosen_eq_none_of_two he hf hne hem hfm]
    rfl
  · intro info hinfo hflag
    rw [report_navigation, hnavEq] at hinfo
    exact ((Document.described_inferred_iff .navigation hnd hnav).mp ⟨info, hinfo, hflag⟩).1

/-- **The explicit flag tells the truth about the whole document.** -/
theorem Auditor.audit_tells_marks {a : Auditor} {html : String} {p : Page} {k c : Int}
    (limit : Option Limit) (exclude : Option Bool) (hread : Page.read a.reader html = .ok p)
    (hk : a.threshold = .links k) (hc : limit.getD a.limit = .atMost c) :
    ∃ report notes b, a.audit html limit exclude = .ok (report, notes) ∧
      p.bodyElement? = some b ∧ report.TellsMarks p.document b := by
  have hfresh := Page.fresh_of_read hread
  obtain ⟨b, hbody⟩ := hfresh.exists_body
  obtain ⟨notes, haudit⟩ := Auditor.audit_eq_ok hread hk hc exclude
  exact ⟨_, notes, b, haudit, hbody, hfresh.report_tellsMarks hbody _ _ _⟩

/-- No element of this page is marked as main content, so that is inferred. -/
theorem Auditor.audit_tells_unmarked_main :
    ∃ p report notes b, Page.read ({} : Auditor).reader "<p></p><nav></nav>" = .ok p ∧
      ({} : Auditor).audit "<p></p><nav></nav>" none none = .ok (report, notes) ∧
      report.TellsMarks p.document b ∧
      ∃ info, report.main = some info ∧ info.explicit = false := by
  obtain ⟨p, hread, hunmarked⟩ : ∃ p,
      Page.read ({} : Auditor).reader "<p></p><nav></nav>" = .ok p ∧
      (p.bodyElement?.any fun b => decide (p.document.Unmarked .main ∧
        ∃ c ∈ b.elementChildren, c.name ≠ "head")) = true :=
    exists_ok_of_any (by decide +kernel)
  obtain ⟨report, notes, b, haudit, hbody, htells⟩ :=
    Auditor.audit_tells_marks none none hread rfl rfl
  rw [hbody, Option.any_some, decide_eq_true_eq] at hunmarked
  exact ⟨p, report, notes, b, hread, haudit, htells, htells.main_inferred.mpr hunmarked⟩

end PageLandmarks

import PageLandmarks.Proofs.LandmarkOrder
import PageLandmarks.Proofs.Markup.Lines

/-!
# PageLandmarks.Proofs.SourceLines

**The lines in a report are lines of the text, in its order.** An element keeps the line of
its start tag, and the tree has its elements in the order of their start tags. Since the
lines of the start tags never go back, an element that is read before another is not on a
later line (`Document.parse_lines`).

So every landmark and every problem about an element has a line of the text, and two
landmarks that the body has found in an order are on lines in that order
(`Auditor.audit_tells_lines`).
-/

namespace PageLandmarks

open Markup (Event startLines)

/-! ### Lines of a tree -/

namespace Builder

theorem openedTags_lines (b : Builder) (e : Event) :
    (b.openedTags e).map Tag.line = (startLines [e]).map some := by
  cases e <;> rfl

/-- The elements opened so far are on the lines of the start tags so far. -/
theorem foldl_add_lines (events : List Event) (b : Builder) :
    (events.foldl add b).tags.map Tag.line =
      b.tags.map Tag.line ++ (startLines events).map some := by
  induction events generalizing b with
  | nil => simp
  | cons e events ih =>
      have hlines : startLines (e :: events) = startLines [e] ++ startLines events :=
        Markup.startLines_append [e] events
      rw [List.foldl_cons, ih, (add_tags b e).1, List.map_append, openedTags_lines, hlines,
        List.map_append, List.append_assoc]

theorem ofEvents_lines (events : List Event) :
    (Nodes.elements (ofEvents events).top.reverse).map (fun e => e.tag.line) =
      (startLines events).map some := by
  have hlines := foldl_add_lines events {}
  rw [← (finish_keeps _).tags, finish_tags, Nodes.tags, List.map_map] at hlines
  exact hlines

end Builder

/-- The start tag of `e` is not on a later line than that of `f`, as far as they are on
lines. -/
def Element.NotBelow (e f : Element) : Prop := ∀ l ∈ e.tag.line, ∀ l' ∈ f.tag.line, l ≤ l'

theorem pairwise_notBelow {es : List Element} {lines : List Nat}
    (hlines : es.map (fun e => e.tag.line) = lines.map some)
    (hsorted : lines.Pairwise (· ≤ ·)) : es.Pairwise Element.NotBelow := by
  have hpairs : (lines.map some).Pairwise fun x y : Option Nat => ∀ l ∈ x, ∀ l' ∈ y, l ≤ l' := by
    rw [List.pairwise_map]
    refine hsorted.imp fun {x y} hxy l hl l' hl' => ?_
    obtain rfl := Option.mem_some_iff.mp hl
    obtain rfl := Option.mem_some_iff.mp hl'
    exact hxy
  rw [← hlines, List.pairwise_map] at hpairs
  exact hpairs

/-- **The elements of a text are on its lines, in reading order.** Only the root is on no
line. -/
theorem Document.parse_lines {text : String} {d : Document} (h : parse text = .ok d) :
    d.root.preorder.Pairwise Element.NotBelow ∧
      ∀ e ∈ d.elements, ∃ l, e.tag.line = some l ∧ 1 ≤ l ∧ l ≤ 1 + text.toList.count '\n' := by
  unfold parse at h
  cases hevents : Markup.readEvents text with
  | error e => rw [hevents] at h; cases h
  | ok events =>
      rw [hevents] at h
      obtain rfl := Except.ok.inj h
      have hwithin := Markup.readEvents_lines hevents
      have hlines := Builder.ofEvents_lines events
      refine ⟨List.pairwise_cons.mpr ⟨?_, pairwise_notBelow hlines hwithin.sorted⟩, ?_⟩
      · intro e _ l hl
        exact absurd hl (Option.not_mem_none l)
      · intro e he
        have hmem : e.tag.line ∈ (startLines events).map some := by
          rw [← hlines]
          exact List.mem_map_of_mem (f := fun e : Element => e.tag.line) he
        obtain ⟨l, hl, hline⟩ := List.mem_map.mp hmem
        exact ⟨l, hline.symm, hwithin.bounds l hl⟩

/-- Where one element of a tree is read before another, and the tree is in the order of its
lines, so are the two. -/
theorem Element.Distinct.notBelow_of_reads {root x y : Element} (hd : root.Distinct)
    (hsorted : root.preorder.Pairwise Element.NotBelow) (hx : x ∈ root.preorder)
    (hy : y ∈ root.preorder) (h : root.Reads x.id y.id) : x.NotBelow y := by
  obtain ⟨pair, hpair, hids⟩ := List.sublist_map_iff.mp h
  obtain ⟨x', pair', rfl, hx', hrest⟩ := List.map_eq_cons_iff.mp hids.symm
  obtain ⟨y', pair'', rfl, hy', -⟩ := List.map_eq_cons_iff.mp hrest
  -- an identity names one element of the tree
  obtain rfl := List.inj_on_of_nodup_map hd hx (hpair.subset (by simp)) hx'.symm
  obtain rfl := List.inj_on_of_nodup_map hd hy (hpair.subset (by simp)) hy'.symm
  exact List.rel_of_pairwise_cons (hsorted.sublist hpair) List.mem_cons_self

/-! ### Lines of a report -/

/-- The number is that of a line of the text. -/
def IsLineOf (text : String) (line : Option Int) : Prop :=
  ∃ l, line = some l ∧ 1 ≤ l ∧ l ≤ 1 + text.toList.count '\n'

/-- Both are lines, and the first is not a later one. -/
def NotLater (line line' : Option Int) : Prop := ∃ l l', line = some l ∧ line' = some l' ∧ l ≤ l'

namespace Report

/-- The line of the main content. -/
def mainLine? (r : Report) : Option Int := r.main.bind LandmarkInfo.line

/-- The line of the navigation. -/
def navigationLine? (r : Report) : Option Int := r.navigation.bind LandmarkInfo.line

/-- What a report on a text says about lines is right, `b` being the body of the page and
`main` and `nav` its landmarks. -/
structure TellsLines (r : Report) (text : String) (b : Element) (main nav : Option Element) :
    Prop where
  /-- The main content is on a line of the text. -/
  main_line : ∀ info, r.main = some info → IsLineOf text info.line
  /-- The navigation is on a line of the text. -/
  navigation_line : ∀ info, r.navigation = some info → IsLineOf text info.line
  /-- A problem is on a line of the text. -/
  finding : ∀ f ∈ r.findings, f.kind ≠ .missingMain → IsLineOf text f.line
  /-- Only missing main content is on none. -/
  missing : ∀ f ∈ r.findings, f.kind = .missingMain → f.line = none
  /-- A navigation before main content of the body is not on a later line. -/
  before : r.navBeforeMain = true → ∀ m, main = some m → b.Holds m.id →
    NotLater r.navigationLine? r.mainLine?
  /-- A navigation of the body that is reported is not on an earlier line than main content
  of the body. -/
  after : r.Reports .navAfterMain → ∀ m n, main = some m → nav = some n →
    b.Holds m.id → b.Holds n.id → NotLater r.mainLine? r.navigationLine?

end Report

/-- The line of a problem is that of the landmark that it is about, if it is about one. -/
theorem Document.line_of_mem_prescribed {d : Document} {b : Element} {main nav : Option Element}
    {f : Finding} (hf : f ∈ d.prescribed b main nav) :
    (f.kind = .missingMain ∧ f.line = none) ∨
      f.kind ≠ .missingMain ∧ ∃ e, (main = some e ∨ nav = some e) ∧
        f.line = e.tag.line.map Int.ofNat := by
  unfold prescribed at hf
  split at hf
  · obtain rfl := List.mem_singleton.mp hf
    exact Or.inl ⟨rfl, rfl⟩
  · right
    cases main with
    | none => exact absurd hf List.not_mem_nil
    | some m =>
        rcases List.mem_append.mp hf with hf | hf
        · cases nav with
          | none => exact absurd hf List.not_mem_nil
          | some n =>
              rw [Element.navigationProblem] at hf
              split at hf
              · obtain rfl := List.mem_singleton.mp hf
                exact ⟨by simp, n, Or.inr rfl, rfl⟩
              · exact absurd hf List.not_mem_nil
        · unfold Element.placeProblem at hf
          by_cases hplace : b.Follows (if nav.isSome then 2 else 1) m.id
          · rw [if_pos hplace] at hf
            obtain rfl := List.mem_singleton.mp hf
            exact ⟨by simp, m, Or.inl rfl, rfl⟩
          · rw [if_neg hplace] at hf
            exact absurd hf List.not_mem_nil

namespace Page

/-- The elements of the page are on the lines of its text, in reading order. -/
structure Lined (p : Page) (text : String) : Prop where
  sorted : p.document.root.preorder.Pairwise Element.NotBelow
  line : ∀ e ∈ p.document.elements, IsLineOf text (e.tag.line.map Int.ofNat)

theorem lined_of_read {reader : ReaderChoice} {html : String} {p : Page}
    (h : read reader html = .ok p) : p.Lined html := by
  obtain ⟨d, hparse, rfl⟩ := read_eq_ok h
  obtain ⟨hsorted, hlines⟩ := Document.parse_lines hparse
  refine ⟨hsorted, fun e he => ?_⟩
  obtain ⟨l, hline, hlow, hhigh⟩ := hlines e he
  refine ⟨l, ?_, by omega, by omega⟩
  rw [hline]
  rfl

namespace Fresh

variable {p : Page} {b m n : Element} {html : String} {detector : Detector}

/-- Of two elements, the one that the body reads first is not on a later line. -/
theorem notLater_of_reads (h : p.Fresh) (hlined : p.Lined html)
    (hbody : p.bodyElement? = some b) {e f : Element} (he : e ∈ p.document.elements)
    (hf : f ∈ p.document.elements) (hreads : b.Reads e.id f.id) :
    NotLater (e.tag.line.map Int.ofNat) (f.tag.line.map Int.ofNat) := by
  have hnotBelow : e.NotBelow f :=
    h.distinct.root.notBelow_of_reads hlined.sorted (List.mem_cons_of_mem _ he)
      (List.mem_cons_of_mem _ hf) (hreads.of_subtree (h.body_mem hbody))
  obtain ⟨l, hl, -⟩ := hlined.line e he
  obtain ⟨l', hl', -⟩ := hlined.line f hf
  refine ⟨l, l', hl, hl', ?_⟩
  obtain ⟨i, hi, rfl⟩ := Option.map_eq_some_iff.mp hl
  obtain ⟨j, hj, rfl⟩ := Option.map_eq_some_iff.mp hl'
  exact Int.ofNat_le.mpr (hnotBelow i hi j hj)

theorem notLater_self (hlined : p.Lined html) {e : Element} (he : e ∈ p.document.elements) :
    NotLater (e.tag.line.map Int.ofNat) (e.tag.line.map Int.ofNat) := by
  obtain ⟨l, hl, -⟩ := hlined.line e he
  exact ⟨l, l, hl, hl, Int.le_refl l⟩

/-- Main content and navigation that the body has in order are on lines in that order. -/
theorem notLater_of_not_misplaces (h : p.Fresh) (hlined : p.Lined html)
    (hbody : p.bodyElement? = some b) (hm : m ∈ p.document.elements)
    (hn : n ∈ p.document.elements) (hmain : b.Holds m.id) (hmis : ¬ b.Misplaces m.id n.id) :
    NotLater (n.tag.line.map Int.ofNat) (m.tag.line.map Int.ofNat) := by
  obtain ⟨hnav, hreads⟩ : b.Holds n.id ∧ ¬ b.Reads m.id n.id := by
    rw [Element.Misplaces, not_or, not_not] at hmis
    exact hmis
  by_cases hid : m.id = n.id
  · -- one element is both landmarks
    have hfind := h.find?_of_mem (List.mem_cons_of_mem p.document.root hm)
    rw [hid, h.find?_of_mem (List.mem_cons_of_mem _ hn)] at hfind
    obtain rfl := Option.some.inj hfind
    exact notLater_self hlined hm
  · have hreads' := ((h.body_distinct hbody).not_reads_iff hmain hnav hid).mp hreads
    exact h.notLater_of_reads hlined hbody hn hm hreads'

theorem mem_prescribed (h : p.Fresh) (hbody : p.bodyElement? = some b) {limit : Option Int}
    {exclude : Bool} {f : Finding} (hf : f ∈ (p.report detector limit exclude).findings) :
    f ∈ p.document.prescribed b p.mainElement? (p.navigationElement? detector) := by
  rw [report_findings] at hf
  have hmem := (cut_isPrefix limit _).subset hf
  cases exclude with
  | true => exact absurd hmem List.not_mem_nil
  | false => rwa [← h.allProblems_eq hbody]

/-- A navigation can only be before the main content if there is one. -/
theorem exists_navigation_of_before (h : p.Fresh) (hbody : p.bodyElement? = some b)
    {limit : Option Int} {exclude : Bool}
    (hbefore : (p.report detector limit exclude).navBeforeMain = true) :
    ∃ n, p.navigationElement? detector = some n := by
  cases hn : p.navigationElement? detector with
  | some n => exact ⟨n, rfl⟩
  | none =>
      simp only [report, h.navigation_id?_eq hbody, hn, Option.map_none, Option.isSome_none,
        Bool.and_false, Bool.false_and, Bool.false_eq_true] at hbefore

theorem report_tellsLines (h : p.Fresh) (hlined : p.Lined html)
    (hbody : p.bodyElement? = some b) (limit : Option Int) (exclude : Bool) :
    (p.report detector limit exclude).TellsLines html b p.mainElement?
      (p.navigationElement? detector) where
  main_line := by
    intro info hinfo
    rw [report_main] at hinfo
    obtain ⟨m, hm, rfl⟩ := Option.map_eq_some_iff.mp hinfo
    exact hlined.line m (h.mainElement?_mem hbody hm)
  navigation_line := by
    intro info hinfo
    rw [report_navigation] at hinfo
    obtain ⟨n, hn, rfl⟩ := Option.map_eq_some_iff.mp hinfo
    exact hlined.line n (h.navigationElement?_mem hbody hn)
  finding := by
    intro f hf hkind
    rcases Document.line_of_mem_prescribed (h.mem_prescribed hbody hf) with
      ⟨hmissing, -⟩ | ⟨-, e, he, hline⟩
    · exact absurd hmissing hkind
    · rw [hline]
      rcases he with he | he
      · exact hlined.line e (h.mainElement?_mem hbody he)
      · exact hlined.line e (h.navigationElement?_mem hbody he)
  missing := by
    intro f hf hkind
    rcases Document.line_of_mem_prescribed (h.mem_prescribed hbody hf) with
      ⟨-, hline⟩ | ⟨hother, -⟩
    · exact hline
    · exact absurd hkind hother
  before := by
    intro hbefore m hm hmain
    obtain ⟨n, hn⟩ := h.exists_navigation_of_before hbody hbefore
    have hmis := (h.report_navBeforeMain_iff hbody hm hn limit exclude).mp hbefore
    have hlater := h.notLater_of_not_misplaces hlined hbody (h.mainElement?_mem hbody hm)
      (h.navigationElement?_mem hbody hn) hmain hmis
    rw [Report.mainLine?, Report.navigationLine?, report_main, report_navigation, hm, hn]
    exact hlater
  after := by
    intro hreports m n hm hn hmain hnav
    have hmis := ((h.reports_navAfterMain_iff hbody hm hn limit exclude).mp hreports).1
    have hreads : b.Reads m.id n.id := hmis.resolve_left (not_not.mpr hnav)
    have hlater := h.notLater_of_reads hlined hbody (h.mainElement?_mem hbody hm)
      (h.navigationElement?_mem hbody hn) hreads
    rw [Report.mainLine?, Report.navigationLine?, report_main, report_navigation, hm, hn]
    exact hlater

end Fresh

end Page

namespace Auditor

variable {a : Auditor} {html : String} {p : Page} {k c : Int}

/-- **A report tells the lines of its landmarks and problems**, and they are in the order
that the landmarks are in. -/
theorem audit_tells_lines (limit : Option Limit) (exclude : Option Bool)
    (hread : Page.read a.reader html = .ok p) (hk : a.threshold = .links k)
    (hc : limit.getD a.limit = .atMost c) :
    ∃ report notes b, a.audit html limit exclude = .ok (report, notes) ∧
      p.bodyElement? = some b ∧
      report.TellsLines html b p.mainElement? (p.navigationElement? ⟨k⟩) := by
  have hfresh := Page.fresh_of_read hread
  have hlined := Page.lined_of_read hread
  obtain ⟨b, hbody⟩ := hfresh.exists_body
  obtain ⟨notes, haudit⟩ := audit_eq_ok hread hk hc exclude
  exact ⟨_, notes, b, haudit, hbody, hfresh.report_tellsLines hlined hbody _ _⟩

/-- A page whose main content is in the second line, with a navigation that is begun in the
third and never ended. -/
def brokenLines : String := "<p>\n<main></main>\n<nav\n class='x'>"

/-- The navigation of this page is reported, on a line that is not before that of the main
content. -/
theorem audit_tells_broken_lines :
    ∃ report notes, ({} : Auditor).audit brokenLines none none = .ok (report, notes) ∧
      report.Reports .navAfterMain ∧ NotLater report.mainLine? report.navigationLine? := by
  obtain ⟨p, hread, hplaces⟩ : ∃ p, Page.read ({} : Auditor).reader brokenLines = .ok p ∧
      (p.mainElement?.any fun m => (p.navigationElement? ⟨3⟩).any fun n => p.bodyElement?.any
        fun b => decide (b.Holds m.id ∧ b.Holds n.id)) = true :=
    exists_ok_of_any (by decide +kernel)
  obtain ⟨m, hm, hplaces⟩ := (Option.any_eq_true _ _).mp hplaces
  obtain ⟨n, hn, hplaces⟩ := (Option.any_eq_true _ _).mp hplaces
  obtain ⟨b, hb, hplaces⟩ := (Option.any_eq_true _ _).mp hplaces
  obtain ⟨hmain, hnav⟩ := of_decide_eq_true hplaces
  obtain ⟨report, notes, b', haudit, hb', hlines⟩ := audit_tells_lines none none hread rfl rfl
  obtain rfl := Option.some.inj (hb.symm.trans hb')
  have hreports : report.Reports .navAfterMain := by
    obtain ⟨⟨report', notes'⟩, haudit', hreport⟩ : ∃ r,
        ({} : Auditor).audit brokenLines none none = .ok r ∧
        decide (r.1.Reports .navAfterMain) = true := exists_ok_of_any (by decide +kernel)
    obtain ⟨rfl, -⟩ := Prod.mk.inj (Except.ok.inj (haudit.symm.trans haudit'))
    exact of_decide_eq_true hreport
  exact ⟨report, notes, haudit, hreports, hlines.after hreports m n hm hn hmain hnav⟩

end Auditor

end PageLandmarks

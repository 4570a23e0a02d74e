import Mathlib.Data.List.Infix
import PageLandmarks.CommandLine.Arguments
import PageLandmarks.Proofs.LandmarkOrder

/-!
# PageLandmarks.Proofs.ProblemLimit

**A limit bounds the problems reported, as long as it is not negative.** Every limit
leaves a beginning of the problems there are, and the greater of two limits leaves what
the smaller one leaves and perhaps more. A negative limit breaks both: it counts from
the end, so it may leave a problem where the limit zero leaves none.

`Auditor.audit_limits_problems` says exactly when a limit is a bound and when two limits
are in order. Nothing keeps a negative limit out but the settings and the service; the
command takes any number.
-/

namespace PageLandmarks

/-! ### Cuts at two numbers -/

section Cut

variable {α : Type} {c d : Int}

/-- A number bounds what is left unless it is negative and leaves anything. -/
theorem length_cut_le_iff (c : Int) (xs : List α) :
    ((cut (some c) xs).length : Int) ≤ max c 0 ↔ 0 ≤ c ∨ c + xs.length ≤ 0 := by
  rw [length_cut]
  split
  · have hmin : min c.toNat xs.length ≤ c.toNat := Nat.min_le_left _ _
    omega
  · omega

/-- Of two beginnings of a list the shorter one is a beginning of the other. -/
theorem cut_prefix_cut_iff_length (limit limit' : Option Int) (xs : List α) :
    cut limit xs <+: cut limit' xs ↔ (cut limit xs).length ≤ (cut limit' xs).length := by
  constructor
  · intro h
    exact h.length_le
  · intro h
    exact List.prefix_of_prefix_length_le (cut_isPrefix limit xs) (cut_isPrefix limit' xs) h

/-- The smaller of two numbers leaves no more than the greater one, unless it is
negative, the greater one is not, and counting from the end leaves more. -/
theorem cut_prefix_cut_iff (h : c ≤ d) (xs : List α) :
    cut (some c) xs <+: cut (some d) xs ↔ 0 ≤ c ∨ d < 0 ∨ c + xs.length ≤ d := by
  rw [cut_prefix_cut_iff_length, length_cut, length_cut]
  by_cases hc : 0 ≤ c
  · rw [if_pos hc, if_pos (Int.le_trans hc h)]
    omega
  · by_cases hd : 0 ≤ d
    · rw [if_neg hc, if_pos hd]
      omega
    · rw [if_neg hc, if_neg hd]
      omega

/-- What the greater of two numbers cuts off, the smaller one does too: a negative
number always cuts something off. -/
theorem length_cut_lt_of_le (h : c ≤ d) {xs : List α}
    (hcut : (cut (some d) xs).length < xs.length) : (cut (some c) xs).length < xs.length := by
  rw [length_cut] at hcut ⊢
  by_cases hc : 0 ≤ c
  · rw [if_pos (Int.le_trans hc h)] at hcut
    rw [if_pos hc]
    omega
  · rw [if_neg hc]
    have hpos : 0 < xs.length := by omega
    omega

end Cut

/-! ### The problems of a report -/

namespace Page

variable (p : Page) (detector : Detector) (c : Int) (exclude : Bool)

/-- Where problems are excluded there is nothing to cut, whatever the limit. -/
theorem report_findings_eq_cut :
    (p.report detector (if exclude then none else some c) exclude).findings =
      cut (some c) (p.report detector none exclude).findings := by
  rw [report_findings, report_findings]
  cases exclude with
  | true =>
      simp [cut]
  | false => rfl

theorem report_truncated_iff :
    (p.report detector (if exclude then none else some c) exclude).truncated = true ↔
      (cut (some c) (p.report detector none exclude).findings).length <
        (p.report detector none exclude).findings.length := by
  rw [← report_findings_eq_cut, report_truncated, decide_eq_true_eq]
  rfl

end Page

namespace Auditor

variable {a : Auditor} {html : String} {p : Page} {k c d : Int} {limit limit' : Option Limit}

/-- **A limit bounds the problems reported, and a greater one leaves no fewer**, exactly
unless it is negative and leaves more, counted from the end, than its place among the
numbers allows. Whether problems were cut off is in order for any two limits. -/
theorem audit_limits_problems (exclude : Option Bool) (hread : Page.read a.reader html = .ok p)
    (hk : a.threshold = .links k) (hc : limit.getD a.limit = .atMost c)
    (hd : limit'.getD a.limit = .atMost d) (hle : c ≤ d) :
    ∃ low high all lowNotes highNotes allNotes,
      a.audit html limit exclude = .ok (low, lowNotes) ∧
      a.audit html limit' exclude = .ok (high, highNotes) ∧
      a.audit html (some .unlimited) exclude = .ok (all, allNotes) ∧
      low.findings <+: all.findings ∧
      ((low.findings.length : Int) ≤ max c 0 ↔ 0 ≤ c ∨ c + all.findings.length ≤ 0) ∧
      (low.findings <+: high.findings ↔ 0 ≤ c ∨ d < 0 ∨ c + all.findings.length ≤ d) ∧
      (high.truncated = true → low.truncated = true) := by
  obtain ⟨lowNotes, hlow⟩ := audit_eq_ok hread hk hc exclude
  obtain ⟨highNotes, hhigh⟩ := audit_eq_ok hread hk hd exclude
  have hunlimited : ((some Limit.unlimited).getD a.limit).bound = .ok none := rfl
  obtain ⟨allNotes, hall⟩ := audit_eq_ok_of_bound hread hk hunlimited exclude
  rw [ite_self] at hall
  refine ⟨_, _, _, lowNotes, highNotes, allNotes, hlow, hhigh, hall, ?_, ?_, ?_, ?_⟩
  · rw [Page.report_findings_eq_cut]
    exact cut_isPrefix _ _
  · rw [Page.report_findings_eq_cut]
    exact length_cut_le_iff c _
  · rw [Page.report_findings_eq_cut, Page.report_findings_eq_cut]
    exact cut_prefix_cut_iff hle _
  · rw [Page.report_truncated_iff, Page.report_truncated_iff]
    intro hcut
    exact length_cut_lt_of_le hle hcut

/-- A page with two problems. -/
def twoProblems : String := "<p></p><p></p><main></main><nav></nav>"

/-- The limits zero and one are bounds for a page with two problems, and in order. -/
theorem audit_limits_two_problems :
    ∃ low high lowNotes highNotes,
      ({} : Auditor).audit twoProblems (some (.atMost 0)) none = .ok (low, lowNotes) ∧
      ({} : Auditor).audit twoProblems (some (.atMost 1)) none = .ok (high, highNotes) ∧
      low.findings = [] ∧ low.findings <+: high.findings ∧
      high.truncated = true ∧ low.truncated = true := by
  obtain ⟨p, hread, -⟩ : ∃ p, Page.read ({} : Auditor).reader twoProblems = .ok p ∧ true = true :=
    exists_ok_of_any (by decide +kernel)
  obtain ⟨low, high, all, lowNotes, highNotes, allNotes, hlow, hhigh, -, -, hbound, horder,
    htruncated⟩ := audit_limits_problems none hread rfl
      (show (some (Limit.atMost 0)).getD ({} : Auditor).limit = .atMost 0 from rfl)
      (show (some (Limit.atMost 1)).getD ({} : Auditor).limit = .atMost 1 from rfl) (by decide)
  have hcut : high.truncated = true := by
    obtain ⟨⟨report, notes⟩, haudit, hreport⟩ : ∃ r,
        ({} : Auditor).audit twoProblems (some (.atMost 1)) none = .ok r ∧
        r.1.truncated = true := exists_ok_of_any (by decide +kernel)
    obtain ⟨rfl, -⟩ := Prod.mk.inj (Except.ok.inj (haudit.symm.trans hhigh))
    exact hreport
  have hnone : low.findings.length = 0 := by
    have hle := hbound.mpr (Or.inl (by decide))
    omega
  exact ⟨low, high, lowNotes, highNotes, hlow, hhigh, List.eq_nil_of_length_eq_zero hnone,
    horder.mpr (Or.inl (by decide)), hcut, htruncated hcut⟩

/-- **A negative limit is no bound**: the command takes one, and the limit -1 leaves one of
two problems where the limit 0 leaves none. -/
theorem audit_leaves_problem_below_zero :
    CommandLine.Request.ofArguments ["--max-problems=-1", "a.html"] =
        .ok (.audit ⟨["a.html"], false, some (.atMost (-1))⟩) ∧
      ∃ low high lowNotes highNotes,
        ({} : Auditor).audit twoProblems (some (.atMost (-1))) none = .ok (low, lowNotes) ∧
        ({} : Auditor).audit twoProblems (some (.atMost 0)) none = .ok (high, highNotes) ∧
        ¬ (low.findings.length : Int) ≤ max (-1) 0 ∧ ¬ low.findings <+: high.findings := by
  obtain ⟨⟨low, lowNotes⟩, hlow, hone⟩ : ∃ r,
      ({} : Auditor).audit twoProblems (some (.atMost (-1))) none = .ok r ∧
      decide (r.1.findings.length = 1) = true := exists_ok_of_any (by decide +kernel)
  obtain ⟨⟨high, highNotes⟩, hhigh, hnone⟩ : ∃ r,
      ({} : Auditor).audit twoProblems (some (.atMost 0)) none = .ok r ∧
      decide (r.1.findings.length = 0) = true := exists_ok_of_any (by decide +kernel)
  have hone : low.findings.length = 1 := of_decide_eq_true hone
  have hnone : high.findings.length = 0 := of_decide_eq_true hnone
  refine ⟨by decide +kernel, low, high, lowNotes, highNotes, hlow, hhigh, by omega, ?_⟩
  intro horder
  have hle := horder.length_le
  omega

end Auditor

end PageLandmarks

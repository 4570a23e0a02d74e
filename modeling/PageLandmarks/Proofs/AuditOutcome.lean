import PageLandmarks.Configuration
import PageLandmarks.Proofs.Findings

/-!
# PageLandmarks.Proofs.AuditOutcome

**What an audit ends in.** It is a report on a page that could be read, up to the limit
(`Auditor.exists_report_of_audit`), or an error. Where the threshold and the limit are
numbers, as the settings make them, the only error is that the page cannot be read
(`Auditor.audit_eq_error_iff`): there is no reader of the name asked for, or the reader
rejects the markup. An auditor that lacks nothing (`Auditor.Usable`) therefore reports on
every page whose markup is accepted.
-/

namespace PageLandmarks

/-- A report never has more problems than a limit that is no negative number. -/
theorem Page.report_findings_length_le (p : Page) (detector : Detector) {limit : Int}
    (h : 0 ≤ limit) (bound : Option Int) (exclude : Bool)
    (hbound : exclude = true ∧ bound = none ∨ bound = some limit) :
    ((p.report detector bound exclude).findings.length : Int) ≤ limit := by
  rw [Page.report_findings]
  rcases hbound with ⟨rfl, rfl⟩ | rfl
  · simpa [cut] using h
  · rw [cut_of_nonneg h]
    have htake := List.length_take_le limit.toNat
      (if exclude then [] else p.allProblems detector)
    omega

/-- An audit that ends in a report has read the page and reports up to its limit. -/
theorem Auditor.exists_report_of_audit {a : Auditor} {html : String} {limit : Option Limit}
    {exclude : Option Bool} {report : Report} {notes : List Note}
    (h : a.audit html limit exclude = .ok (report, notes)) :
    ∃ p detector bound, Page.read a.reader html = .ok p ∧
      report = p.report detector bound (exclude.getD a.exclude) ∧
      (exclude.getD a.exclude = true ∧ bound = none ∨
        (limit.getD a.limit).bound = .ok bound) := by
  unfold Auditor.audit at h
  cases hread : Page.read a.reader html with
  | error e => rw [hread] at h; cases h
  | ok p =>
      rw [hread] at h
      simp only [Except.mapError, bind, Except.bind] at h
      cases hdetector : a.threshold.detector p with
      | error e => rw [hdetector] at h; cases h
      | ok detector =>
          simp only [hdetector] at h
          cases hexclude : exclude.getD a.exclude with
          | true =>
              simp only [hexclude, if_true] at h
              obtain ⟨rfl, -⟩ := Prod.mk.inj (Except.ok.inj h)
              exact ⟨p, detector, none, rfl, rfl, .inl ⟨rfl, rfl⟩⟩
          | false =>
              simp only [hexclude, Bool.false_eq_true, if_false] at h
              cases hbound : (limit.getD a.limit).bound with
              | error e => rw [hbound] at h; cases h
              | ok bound =>
                  simp only [hbound] at h
                  obtain ⟨rfl, -⟩ := Prod.mk.inj (Except.ok.inj h)
                  exact ⟨p, detector, bound, rfl, rfl, .inr rfl⟩

/-- With numbers for the threshold and the limit, an audit fails exactly if the page cannot
be read. -/
theorem Auditor.audit_eq_error_iff {a : Auditor} {html : String} {limit : Option Limit} {k : Int}
    {bound : Option Int} (hk : a.threshold = .links k)
    (hbound : (limit.getD a.limit).bound = .ok bound) (exclude : Option Bool) {e : AuditError} :
    a.audit html limit exclude = .error e ↔
      ∃ reason, Page.read a.reader html = .error reason ∧ e = .page reason := by
  unfold Auditor.audit
  cases hread : Page.read a.reader html with
  | error reason =>
      simp only [Except.mapError, bind, Except.bind, Except.error.injEq, exists_eq_left']
      exact eq_comm
  | ok p =>
      simp only [reduceCtorEq, false_and, exists_false, iff_false]
      rw [hk, hbound]
      cases exclude.getD a.exclude <;> exact fun h => nomatch h

/-- A page that there is a reader for cannot be read exactly if the markup is rejected. -/
theorem Page.read_eq_error_iff {reader : ReaderChoice} {html : String} {reason : PageError}
    (h : checkReader reader = .ok ()) :
    Page.read reader html = .error reason ↔
      ∃ rejection, Document.parse html = .error rejection ∧ reason = .rejected rejection := by
  rw [Page.read, h]
  cases Document.parse html with
  | error rejection => simpa [bind, Except.bind, Except.map, Except.mapError] using eq_comm
  | ok d => simp [bind, Except.bind, Except.map, Except.mapError]

/-- A page cannot be read exactly if there is no reader of these names, or the reader
rejects the markup. -/
theorem Page.read_named_eq_error_iff {names : List String} {html : String} {reason : PageError} :
    Page.read (.named names) html = .error reason ↔
      (names.any readerNames.contains = false ∧
        reason = .unknownReader (",".intercalate names)) ∨
      (names.any readerNames.contains = true ∧
        ∃ rejection, Document.parse html = .error rejection ∧ reason = .rejected rejection) := by
  cases hknown : names.any readerNames.contains with
  | false =>
      have hcheck : checkReader (.named names) =
          .error (.unknownReader (",".intercalate names)) := by
        rw [checkReader, if_neg (by rw [hknown]; exact Bool.false_ne_true)]
      rw [Page.read, hcheck]
      simpa [bind, Except.bind] using eq_comm
  | true =>
      have hcheck : checkReader (.named names) = .ok () := by rw [checkReader, if_pos hknown]
      simp [Page.read_eq_error_iff hcheck]

/-! ### Auditors that lack nothing -/

/-- An audit with this limit of its own, if there is one, has all it needs but the page: a
reader, and numbers for the threshold and the limit. -/
structure Auditor.Usable (a : Auditor) (limit : Option Limit) : Prop where
  reader : Page.checkReader a.reader = .ok ()
  threshold : ∃ k, a.threshold = .links k
  limit : ∃ bound, (limit.getD a.limit).bound = .ok bound

/-- Settings make a usable auditor if they name a reader that there is. -/
theorem Auditor.usable_ofSettings {s : Settings} (hreader : s.htmlParser ∈ Page.readerNames)
    {limit : Option Limit} (hlimit : limit ≠ some .unusable) :
    (Configuration.ofSettings s).auditor.Usable limit := by
  refine ⟨?_, ⟨_, rfl⟩, ?_⟩
  · have hknown : ([s.htmlParser].any Page.readerNames.contains) = true := by simpa using hreader
    simp only [Configuration.ofSettings, Auditor.ofSettings, ite_self, Page.checkReader, hknown,
      if_true]
  · match limit with
    | none => exact ⟨_, rfl⟩
    | some .unlimited => exact ⟨_, rfl⟩
    | some (.atMost n) => exact ⟨_, rfl⟩
    | some .unusable => contradiction

theorem Auditor.usable_default : ({} : Auditor).Usable none := by
  have hsettings : (Configuration.ofSettings {}).auditor = {} := by decide
  exact hsettings ▸ Auditor.usable_ofSettings (by decide) (by simp)

/-- A usable auditor fails exactly if the markup is rejected. -/
theorem Auditor.Usable.audit_eq_error_iff {a : Auditor} {limit : Option Limit}
    (h : a.Usable limit) {html : String} {exclude : Option Bool} {e : AuditError} :
    a.audit html limit exclude = .error e ↔
      ∃ rejection, Document.parse html = .error rejection ∧ e = .page (.rejected rejection) := by
  obtain ⟨k, hk⟩ := h.threshold
  obtain ⟨bound, hbound⟩ := h.limit
  rw [Auditor.audit_eq_error_iff hk hbound]
  constructor
  · rintro ⟨reason, hread, rfl⟩
    obtain ⟨rejection, hparse, rfl⟩ := (Page.read_eq_error_iff h.reader).mp hread
    exact ⟨rejection, hparse, rfl⟩
  · rintro ⟨rejection, hparse, rfl⟩
    exact ⟨_, (Page.read_eq_error_iff h.reader).mpr ⟨rejection, hparse, rfl⟩, rfl⟩

/-- A usable auditor reports on every page whose markup is accepted. -/
theorem Auditor.Usable.exists_report {a : Auditor} {limit : Option Limit}
    (h : a.Usable limit) {html : String} {d : Document} (hparse : Document.parse html = .ok d)
    (exclude : Option Bool) : ∃ report notes, a.audit html limit exclude = .ok (report, notes) := by
  cases haudit : a.audit html limit exclude with
  | error e =>
      obtain ⟨rejection, hrejected, -⟩ := h.audit_eq_error_iff.mp haudit
      rw [hparse] at hrejected
      cases hrejected
  | ok r => exact ⟨r.1, r.2, rfl⟩

end PageLandmarks

import PageLandmarks.Proofs.CommandLine.Batch
import PageLandmarks.Proofs.Http.PageRequest

/-!
# PageLandmarks.Proofs.CommandLine.Service

**The command and the service agree**, as far as they get the same text. With the same
things in force since the start, and nothing asked for but the page, the command has for a
file what the service answers to a request with the text that the file is read as
(`run_prints_answer`).

That is the text in the file with unified line ends. A carriage return reaches the service
but not the command, and where it stands alone it ends a line for the command only
(`run_counts_carriage_return`).
-/

namespace PageLandmarks.CommandLine

variable {c : Configuration} {read : String → Except ReadError (List UInt8)}
  {argv files : List String}

/-- A file with the octets of a text is audited as the text with unified line ends. -/
theorem auditNext_octets {a : Auditor} {limit : Option Limit} {file s : String}
    (husable : a.Usable limit) (hpass : Passes read file)
    (hread : read (normalPath file) = .ok (Text.Utf8.octets s)) :
    ∃ report notes, a.audit (Text.Utf8.unified s) limit none = .ok (report, notes) ∧
      auditNext a limit read file = .ok (.audited (normalPath file) report notes) := by
  have htext : textAt read (normalPath file) = .ok (Text.Utf8.unified s) := by
    rw [textAt, hread]
    dsimp only
    rw [Text.Utf8.readText_octets]
    rfl
  obtain ⟨hpath, haccepted⟩ := hpass
  obtain ⟨d, hparse⟩ := haccepted _ htext
  obtain ⟨report, notes, haudit⟩ := husable.exists_report hparse none
  refine ⟨report, notes, haudit, ?_⟩
  rw [auditNext, if_neg (by simpa using hpath), auditFile_eq, htext]
  simp only [haudit]

/-- **The command prints what the service answers.** Let the number of links be that of the
start, as it is with settings that nothing was assigned to. If the reports on files that all
pass are printed, then the one entry for a file with the octets of a text is the body that the
service answers with to a request for the audit of the text with unified line ends; and so it
is what it answers with to the text itself if there is no carriage return in it. -/
theorem run_prints_answer (hlinks : c.auditor.threshold = .links c.serviceLinks)
    (husable : c.auditor.Usable none)
    (hargv : Request.ofArguments argv = .ok (.audit ⟨files, true, none⟩))
    (hpasses : ∀ file ∈ files, Passes read file) :
    ∃ outcome reports, run c read argv = .ok outcome ∧
      outcome.stdout = (Json.object reports).pretty ++ "\n" ∧
      ∀ file ∈ files, ∀ s ≠ "", read (normalPath file) = .ok (Text.Utf8.octets s) →
        ∃ entry, reportsAt (normalPath file) reports = [(.text (normalPath file), entry)] ∧
          Http.Answered c (Text.Utf8.unified s) entry ∧
          ('\r' ∉ s.toList → Http.Answered c s entry) := by
  obtain ⟨results, hfiles⟩ : ∃ results, auditFiles c.auditor none read files = .ok results :=
    exists_auditFiles_iff.mpr fun file hfile => (auditNext_ok_iff husable).mpr (hpasses file hfile)
  refine ⟨_, _, (run_eq_ok_iff hargv).mpr ⟨results, hfiles, rfl⟩, rfl, ?_⟩
  intro file hfile s hs hread
  obtain ⟨report, notes, haudit, hnext⟩ := auditNext_octets husable (hpasses file hfile) hread
  have hserved : (Http.auditorOf c).audit (Text.Utf8.unified s) none none =
      .ok (report, notes) := by
    rw [Http.auditorOf_eq hlinks]
    exact haudit
  have hanswer : Http.Answered c (Text.Utf8.unified s) report.toJson :=
    Http.answered_of_audit (Text.Utf8.unified_ne_empty hs) hserved
  refine ⟨report.toJson, ?_, hanswer, fun hreturn => ?_⟩
  · exact reportsAt_ofOccurrences (auditFiles_eq_ok_iff.mp hfiles) hfile hnext
  · rwa [Text.Utf8.unified_of_not_mem hreturn] at hanswer

/-- A directory with a page in two lines that has one link. -/
def twoLines : FileTree :=
  ⟨[(["a.html"], .file (Text.Utf8.octets "<p>\n<a href=x>t</a></p><main>u</main>"))]⟩

/-- The command prints for a page in two lines what the service answers, where one link is
enough for a navigation. -/
theorem run_prints_answer_two_lines :
    ∃ outcome reports entry,
      run (.ofSettings { navMinLinks := 1 }) twoLines.read ["--json", "a.html"] = .ok outcome ∧
      outcome.stdout = (Json.object reports).pretty ++ "\n" ∧
      reportsAt "a.html" reports = [(.text "a.html", entry)] ∧
      Http.Answered (.ofSettings { navMinLinks := 1 })
        "<p>\n<a href=x>t</a></p><main>u</main>" entry := by
  have husable : (Configuration.ofSettings { navMinLinks := 1 }).auditor.Usable none :=
    Auditor.usable_ofSettings (by decide) (by simp)
  have hargv : Request.ofArguments ["--json", "a.html"] =
      .ok (.audit ⟨["a.html"], true, none⟩) := by decide
  have hread : twoLines.read (normalPath "a.html") =
      .ok (Text.Utf8.octets "<p>\n<a href=x>t</a></p><main>u</main>") := by decide +kernel
  have hpasses : ∀ file ∈ ["a.html"], Passes twoLines.read file := by
    intro file hfile
    obtain rfl := List.mem_singleton.mp hfile
    obtain ⟨result, hnext, -⟩ := exists_ok_of_any
      (x := auditNext {} none twoLines.read "a.html") (q := fun _ => true) (by decide +kernel)
    exact (auditNext_ok_iff Auditor.usable_default).mp ⟨result, hnext⟩
  obtain ⟨outcome, reports, hrun, hstdout, hentries⟩ :=
    run_prints_answer (c := .ofSettings { navMinLinks := 1 }) rfl husable hargv hpasses
  obtain ⟨entry, hreports, -, hanswer⟩ := hentries "a.html" (by simp) _ (by decide) hread
  exact ⟨outcome, reports, entry, hrun, hstdout, hreports, hanswer (by decide)⟩

/-- The report on a page that is a marked main content on this line. -/
def loneMain (line : Int) : Report :=
  ⟨some ⟨"main", "main", some line, true⟩, none, false, true, [], false⟩

/-- A directory with a page that begins with a carriage return. -/
def carriageReturn : FileTree := ⟨[(["a.html"], .file (Text.Utf8.octets "\r<main></main>"))]⟩

/-- **A carriage return makes a difference**: the main content is in the second line for
the command, and in the first for the service. -/
theorem run_counts_carriage_return :
    run {} carriageReturn.read ["--json", "a.html"] =
        .ok ⟨0, (Json.object [("a.html", (loneMain 2).toJson)]).pretty ++ "\n", ""⟩ ∧
      Http.Answered {} "\r<main></main>" (loneMain 1).toJson ∧
      (Json.object [("a.html", (loneMain 2).toJson)]).pretty ≠
        (Json.object [("a.html", (loneMain 1).toJson)]).pretty := by
  refine ⟨by decide +kernel, ?_, by decide +kernel⟩
  obtain ⟨⟨report, notes⟩, haudit, hreport⟩ := exists_ok_of_any
    (x := (Http.auditorOf {}).audit "\r<main></main>" none none)
    (q := fun audited => decide (audited.1 = loneMain 1)) (by decide +kernel)
  obtain rfl := of_decide_eq_true hreport
  exact Http.answered_of_audit (by decide) haudit

end PageLandmarks.CommandLine

import PageLandmarks.Proofs.CommandLine.Batch

/-!
# PageLandmarks.Proofs.CommandLine.Composition

**A command on more files is the commands on some of them put together.** What a command
comes to is told by what each of its files has to report (`reportAt?`): the findings are
printed one on a line in the order of the files, or the reports are the entries of one
object, one for each path that can be read; and the exit status says whether a file could
not be read and whether there are findings (`Outcome.Tells`). All of this goes along the
list of files, so two lists in a row give what the first gives and then what the second
gives, and the worse of the two exit statuses (`run_composes`).

A path that can be none is neither read nor skipped. It ends the command
(`run_stops_at_null`).
-/

namespace PageLandmarks.CommandLine

variable {a : Auditor} {limit : Option Limit} {read : String → Except ReadError (List UInt8)}
  {file : String} {files : List String}

/-! ### What a file has to report -/

/-- The file cannot be read as text. -/
def Unreadable (read : String → Except ReadError (List UInt8)) (file : String) : Prop :=
  ∃ e, textAt read (normalPath file) = .error e

/-- The report on a file, if it can be read and its audit returns. -/
def reportAt? (a : Auditor) (limit : Option Limit)
    (read : String → Except ReadError (List UInt8)) (file : String) : Option Report :=
  match textAt read (normalPath file) with
  | .error _ => none
  | .ok text => (a.audit text limit none).toOption.map Prod.fst

/-- The findings in a file. -/
def findingsAt (a : Auditor) (limit : Option Limit)
    (read : String → Except ReadError (List UInt8)) (file : String) : List Finding :=
  ((reportAt? a limit read file).map Report.findings).getD []

/-- Everything that a result says about its file. -/
structure FileResult.Describes (result : FileResult) (a : Auditor) (limit : Option Limit)
    (read : String → Except ReadError (List UInt8)) (file : String) : Prop where
  unreadable : 2 ≤ result.status ↔ Unreadable read file
  found : 1 ≤ result.status ↔ Unreadable read file ∨ findingsAt a limit read file ≠ []
  reported : (reportAt? a limit read file).isSome ↔ ¬ Unreadable read file
  lines : result.lines =
    String.join ((findingsAt a limit read file).map (findingLine (normalPath file)))
  keyed : result.keyed? =
    (reportAt? a limit read file).map fun r => (.text (normalPath file), r.toJson)

theorem describes_unreadable {e : ReadError} (htext : textAt read (normalPath file) = .error e) :
    (FileResult.unreadable (normalPath file) e).Describes a limit read file := by
  have hunreadable : Unreadable read file := ⟨e, htext⟩
  have hreport : reportAt? a limit read file = none := by rw [reportAt?, htext]
  have hfindings : findingsAt a limit read file = [] := by
    rw [findingsAt, hreport]
    rfl
  refine ⟨?_, ?_, ?_, ?_, ?_⟩
  · exact iff_of_true (Nat.le_refl 2) hunreadable
  · exact iff_of_true (Nat.le_succ 1) (Or.inl hunreadable)
  · rw [hreport]
    exact iff_of_false Bool.false_ne_true (not_not_intro hunreadable)
  · rw [hfindings]
    rfl
  · rw [hreport]
    rfl

theorem describes_audited {text : String} {report : Report} {notes : List Note}
    (htext : textAt read (normalPath file) = .ok text)
    (haudit : a.audit text limit none = .ok (report, notes)) :
    (FileResult.audited (normalPath file) report notes).Describes a limit read file := by
  have hreadable : ¬ Unreadable read file := by
    intro ⟨e, herror⟩
    rw [htext] at herror
    cases herror
  have hreport : reportAt? a limit read file = some report := by
    simp only [reportAt?, htext, haudit]
    rfl
  have hfindings : findingsAt a limit read file = report.findings := by
    rw [findingsAt, hreport]
    rfl
  have hstatus : (FileResult.audited (normalPath file) report notes).status =
      if report.findings = [] then 0 else 1 := by
    rw [FileResult.status, Report.hasFindings]
    cases report.findings <;> rfl
  refine ⟨?_, ?_, ?_, ?_, ?_⟩
  · refine iff_of_false ?_ hreadable
    rw [hstatus]
    split <;> omega
  · rw [hstatus, hfindings, or_iff_right hreadable]
    split <;> simp_all
  · rw [hreport]
    exact iff_of_true rfl hreadable
  · rw [hfindings]
    rfl
  · rw [hreport]
    rfl

theorem describes_of_auditNext {result : FileResult}
    (h : auditNext a limit read file = .ok result) : result.Describes a limit read file := by
  rcases auditNext_eq_ok h with ⟨e, htext, rfl⟩ | ⟨text, report, notes, htext, haudit, rfl⟩
  · exact describes_unreadable htext
  · exact describes_audited htext haudit

/-! ### Exit statuses -/

theorem le_foldl_max_iff {ns : List Nat} {n k : Nat} :
    k ≤ ns.foldl max n ↔ k ≤ n ∨ ∃ m ∈ ns, k ≤ m := by
  induction ns generalizing n with
  | nil => simp
  | cons m ns ih =>
      have hmax : k ≤ max n m ↔ k ≤ n ∨ k ≤ m := by omega
      rw [List.foldl_cons, ih, hmax, List.exists_mem_cons_iff, or_assoc]

/-- The worst of two lists is the worse of the worst. -/
theorem foldl_max_append (ns ms : List Nat) :
    (ns ++ ms).foldl max 0 = max (ns.foldl max 0) (ms.foldl max 0) := by
  have hassoc : ms.foldl max (max (ns.foldl max 0) 0) = max (ns.foldl max 0) (ms.foldl max 0) :=
    List.foldl_assoc
  rw [List.foldl_append, ← hassoc, Nat.max_zero]

/-- A number up to 2 is known once it is known from which cases on it is reached. -/
theorem eq_iff_of_le_iff {n : Nat} {P Q : Prop} (hle : n ≤ 2) (htwo : 2 ≤ n ↔ P)
    (hone : 1 ≤ n ↔ P ∨ Q) : (n = 2 ↔ P) ∧ (n = 1 ↔ ¬ P ∧ Q) ∧ (n = 0 ↔ ¬ P ∧ ¬ Q) := by
  have hnotP : ¬ P ↔ n < 2 := by rw [← htwo, Nat.not_le]
  have hnone : ¬ P ∧ ¬ Q ↔ n < 1 := by rw [← not_or, ← hone, Nat.not_le]
  refine ⟨?_, ?_, ?_⟩
  · rw [← htwo]
    omega
  · constructor
    · intro hn
      have hP : ¬ P := hnotP.mpr (by omega)
      exact ⟨hP, (hone.mp (by omega)).resolve_left hP⟩
    · intro ⟨hP, hQ⟩
      have hlt := hnotP.mp hP
      have hge := hone.mpr (Or.inr hQ)
      omega
  · rw [hnone]
    omega

/-! ### Finding lines -/

theorem newline_not_mem_toString (n : Int) : '\n' ∉ (toString n).toList := by
  have hnat : ∀ m : Nat, '\n' ∉ m.repr.toList := by
    intro m hmem
    rw [Nat.toList_repr] at hmem
    have hdigit := Nat.isDigit_of_mem_toDigits (by omega) (by omega) hmem
    exact absurd hdigit (by decide)
  cases n with
  | ofNat m => exact hnat m
  | negSucc m =>
      intro hmem
      have hsplit : (toString (Int.negSucc m)).toList = '-' :: m.succ.repr.toList := by
        show ("-" ++ m.succ.repr).toList = _
        rw [String.toList_append]
        rfl
      rw [hsplit, List.mem_cons] at hmem
      rcases hmem with hmem | hmem
      · exact absurd hmem (by decide)
      · exact hnat m.succ hmem

/-- Problems are worded as their kinds are. -/
theorem message_of_mem_problems {p : Page} {main nav : Option ElementId} {before first : Bool}
    {f : Finding} (hf : f ∈ problems p main nav before first) : f.message = f.kind.message := by
  have hfinding : ∀ {kind : FindingKind} {e : Option Element}, f ∈ [finding kind e] →
      f.message = f.kind.message := by
    intro kind e h
    rw [List.mem_singleton.mp h]
    rfl
  unfold problems at hf
  split at hf
  · exact hfinding hf
  · rcases List.mem_append.mp hf with hf | hf
    · split at hf
      · split at hf
        · exact absurd hf List.not_mem_nil
        · exact hfinding hf
      · exact absurd hf List.not_mem_nil
    · split at hf
      · exact absurd hf List.not_mem_nil
      · exact hfinding hf

theorem message_of_mem_findingsAt {f : Finding} (hf : f ∈ findingsAt a limit read file) :
    f.message = f.kind.message := by
  unfold findingsAt reportAt? at hf
  split at hf
  · exact absurd hf List.not_mem_nil
  · rename_i text _
    cases haudit : a.audit text limit none with
    | error e => rw [haudit] at hf; exact absurd hf List.not_mem_nil
    | ok audited =>
        obtain ⟨p, detector, bound, -, hreport, -⟩ := Auditor.exists_report_of_audit haudit
        rw [haudit] at hf
        have hmem : f ∈ audited.1.findings := hf
        rw [hreport, Page.report_findings] at hmem
        have hall := (cut_isPrefix bound _).subset hmem
        split at hall
        · exact absurd hall List.not_mem_nil
        · exact message_of_mem_problems hall

/-- A finding is on a line of its own, as far as the path is on one line. -/
theorem count_newline_findingLine {path : String} {f : Finding} (hpath : '\n' ∉ path.toList)
    (hmessage : f.message = f.kind.message) : (findingLine path f).toList.count '\n' = 1 := by
  have hline : (toString (f.line.getD 1)).toList.count '\n' = 0 :=
    List.count_eq_zero.mpr (newline_not_mem_toString _)
  have hseverity : f.severity.name.toList.count '\n' = 0 := by
    cases f.severity <;> rfl
  have hkind : f.kind.message.toList.count '\n' = 0 := by
    cases f.kind <;> rfl
  have hpath' : path.toList.count '\n' = 0 := List.count_eq_zero.mpr hpath
  rw [findingLine, hmessage]
  simp only [String.toList_append, List.count_append, hpath', hline, hseverity, hkind]
  rfl

theorem count_newline_join {lines : List String}
    (h : ∀ line ∈ lines, line.toList.count '\n' = 1) :
    (String.join lines).toList.count '\n' = lines.length := by
  induction lines with
  | nil => rfl
  | cons line lines ih =>
      obtain ⟨hfirst, hrest⟩ := List.forall_mem_cons.mp h
      rw [String.join_cons, String.toList_append, List.count_append, hfirst, ih hrest,
        List.length_cons, Nat.add_comm]

/-! ### The outcome of a command -/

/-- The finding lines of all files, in order. -/
def findingLines (a : Auditor) (limit : Option Limit)
    (read : String → Except ReadError (List UInt8)) (files : List String) : List String :=
  files.flatMap fun file => (findingsAt a limit read file).map (findingLine (normalPath file))

theorem count_newline_findingLines (hpaths : ∀ file ∈ files, '\n' ∉ (normalPath file).toList) :
    (String.join (findingLines a limit read files)).toList.count '\n' =
      (files.flatMap (findingsAt a limit read)).length := by
  have hlines : ∀ line ∈ findingLines a limit read files, line.toList.count '\n' = 1 := by
    intro line hline
    obtain ⟨file, hfile, hline⟩ := List.mem_flatMap.mp hline
    obtain ⟨f, hf, rfl⟩ := List.mem_map.mp hline
    exact count_newline_findingLine (hpaths file hfile) (message_of_mem_findingsAt hf)
  rw [count_newline_join hlines, findingLines, List.length_flatMap, List.length_flatMap]
  simp only [List.length_map]

/-- The outcome of a command is told by what each file has to report. -/
structure Outcome.Tells (o : Outcome) (a : Auditor) (limit : Option Limit)
    (read : String → Except ReadError (List UInt8)) (json : Bool) (files : List String) :
    Prop where
  /-- The exit status is 2 if a file cannot be read. -/
  exit_two : o.exit = 2 ↔ ∃ file ∈ files, Unreadable read file
  /-- Otherwise it is 1 if there is a finding. -/
  exit_one : o.exit = 1 ↔ (∀ file ∈ files, ¬ Unreadable read file) ∧
    ∃ file ∈ files, findingsAt a limit read file ≠ []
  /-- Otherwise it is 0. -/
  exit_zero : o.exit = 0 ↔ (∀ file ∈ files, ¬ Unreadable read file) ∧
    ∀ file ∈ files, findingsAt a limit read file = []
  /-- There is a report on each file that can be read, and on no other. -/
  reported : ∀ file ∈ files, (reportAt? a limit read file).isSome ↔ ¬ Unreadable read file
  /-- The finding lines are printed one after another. -/
  lines : json = false → o.stdout = String.join (findingLines a limit read files)
  /-- There are as many lines as findings. -/
  line_count : json = false → (∀ file ∈ files, '\n' ∉ (normalPath file).toList) →
    o.stdout.toList.count '\n' = (files.flatMap (findingsAt a limit read)).length
  /-- Or an object is printed that has the report on each path that can be read, once. -/
  reports : json = true → ∃ reports : List (JsonString × Json),
    o.stdout = (Json.object reports).pretty ++ "\n" ∧ (reports.map Prod.fst).Nodup ∧
      ∀ path entry, (path, entry) ∈ reports ↔ ∃ file ∈ files, ∃ report,
        reportAt? a limit read file = some report ∧ path = .text (normalPath file) ∧
          entry = report.toJson

section Results

variable {results : List FileResult}

theorem exists_result_of_mem (h : HaveResults a limit read files results) (hfile : file ∈ files) :
    ∃ result ∈ results, auditNext a limit read file = .ok result := by
  obtain ⟨result, hnext⟩ := exists_auditFiles_iff.mp ⟨_, auditFiles_eq_ok_iff.mpr h⟩ file hfile
  exact ⟨result, mem_results h hfile hnext, hnext⟩

/-- Any bound that each file alone reaches or not, the exit status reaches as one of them
does. -/
theorem le_exit_iff (h : HaveResults a limit read files results) {P : String → Prop} {k : Nat}
    (hk : 0 < k)
    (hP : ∀ file result, auditNext a limit read file = .ok result → (k ≤ result.status ↔ P file))
    (debug json : Bool) :
    k ≤ (outcomeOf debug json results).exit ↔ ∃ file ∈ files, P file := by
  show k ≤ (results.map FileResult.status).foldl max 0 ↔ _
  rw [le_foldl_max_iff, or_iff_right (by omega)]
  constructor
  · rintro ⟨_, hstatus, hle⟩
    obtain ⟨result, hresult, rfl⟩ := List.mem_map.mp hstatus
    obtain ⟨file, hfile, hnext⟩ := exists_auditNext_of_mem h hresult
    exact ⟨file, hfile, (hP file result hnext).mp hle⟩
  · rintro ⟨file, hfile, hPfile⟩
    obtain ⟨result, hresult, hnext⟩ := exists_result_of_mem h hfile
    exact ⟨_, List.mem_map_of_mem hresult, (hP file result hnext).mpr hPfile⟩

theorem join_lines_eq (h : HaveResults a limit read files results) :
    String.join (results.map FileResult.lines) = String.join (findingLines a limit read files) := by
  induction h with
  | nil => rfl
  | cons hnext _ ih =>
      rw [List.map_cons, String.join_cons, ih, (describes_of_auditNext hnext).lines,
        ← String.join_append]
      rfl

/-- An entry of the object is the report on a file. -/
theorem mem_reports_iff (h : HaveResults a limit read files results) (path : JsonString)
    (entry : Json) :
    (path, entry) ∈ Assoc.ofOccurrences (results.filterMap FileResult.keyed?) ↔
      ∃ file ∈ files, ∃ report, reportAt? a limit read file = some report ∧
        path = .text (normalPath file) ∧ entry = report.toJson := by
  constructor
  · intro hmem
    obtain ⟨result, hresult, hkeyed⟩ :=
      List.mem_filterMap.mp (Assoc.mem_of_mem_ofOccurrences hmem)
    obtain ⟨file, hfile, hnext⟩ := exists_auditNext_of_mem h hresult
    rw [(describes_of_auditNext hnext).keyed] at hkeyed
    obtain ⟨report, hreport, hentry⟩ := Option.map_eq_some_iff.mp hkeyed
    obtain ⟨rfl, rfl⟩ := Prod.mk.inj hentry
    exact ⟨file, hfile, report, hreport, rfl, rfl⟩
  · rintro ⟨file, hfile, report, hreport, rfl, rfl⟩
    obtain ⟨result, -, hnext⟩ := exists_result_of_mem h hfile
    have hat := reportsAt_ofOccurrences h hfile hnext
    rw [(describes_of_auditNext hnext).keyed, hreport] at hat
    have hmem : (JsonString.text (normalPath file), report.toJson) ∈
        reportsAt (normalPath file)
          (Assoc.ofOccurrences (results.filterMap FileResult.keyed?)) := by
      rw [hat]
      exact List.mem_singleton_self _
    exact List.mem_of_mem_filter hmem

theorem outcomeOf_tells (h : HaveResults a limit read files results) (debug json : Bool) :
    (outcomeOf debug json results).Tells a limit read json files := by
  have htwo : 2 ≤ (outcomeOf debug json results).exit ↔ ∃ file ∈ files, Unreadable read file :=
    le_exit_iff h (by omega) (fun _ _ hnext => (describes_of_auditNext hnext).unreadable) debug json
  have hone : 1 ≤ (outcomeOf debug json results).exit ↔
      ∃ file ∈ files, Unreadable read file ∨ findingsAt a limit read file ≠ [] :=
    le_exit_iff h (by omega) (fun _ _ hnext => (describes_of_auditNext hnext).found) debug json
  have hle : (outcomeOf debug json results).exit ≤ 2 :=
    foldl_max_le (by omega) (List.forall_mem_map.mpr fun result _ => status_le result)
  simp only [and_or_left, exists_or] at hone
  obtain ⟨hexitTwo, hexitOne, hexitZero⟩ := eq_iff_of_le_iff hle htwo hone
  push Not at hexitOne hexitZero
  refine ⟨hexitTwo, hexitOne, hexitZero, ?_, ?_, ?_, ?_⟩
  · intro file hfile
    obtain ⟨result, -, hnext⟩ := exists_result_of_mem h hfile
    exact (describes_of_auditNext hnext).reported
  · rintro rfl
    exact join_lines_eq h
  · rintro rfl hpaths
    show (String.join (results.map FileResult.lines)).toList.count '\n' = _
    rw [join_lines_eq h]
    exact count_newline_findingLines hpaths
  · rintro rfl
    exact ⟨_, rfl, Assoc.ofOccurrences_names_nodup _, mem_reports_iff h⟩

end Results

/-! ### Two lists of files -/

/-- The audit of the file returns, if it can be read. -/
def Returns (a : Auditor) (limit : Option Limit)
    (read : String → Except ReadError (List UInt8)) (file : String) : Prop :=
  ∀ text, textAt read (normalPath file) = .ok text → ∃ result, a.audit text limit none = .ok result

theorem Unreadable.returns (h : Unreadable read file) : Returns a limit read file := by
  obtain ⟨e, herror⟩ := h
  intro text htext
  rw [htext] at herror
  cases herror

theorem exists_auditNext (hpath : '\x00' ∉ (normalPath file).toList)
    (hreturns : Returns a limit read file) :
    ∃ result, auditNext a limit read file = .ok result := by
  rw [auditNext, if_neg (by simpa using hpath), auditFile_eq]
  cases htext : textAt read (normalPath file) with
  | error e => exact ⟨_, rfl⟩
  | ok text =>
      obtain ⟨⟨report, notes⟩, haudit⟩ := hreturns text htext
      simp only [haudit]
      exact ⟨_, rfl⟩

/-- The results of the files, if each of them has one. -/
def resultsOf (a : Auditor) (limit : Option Limit)
    (read : String → Except ReadError (List UInt8)) (files : List String) : List FileResult :=
  (auditFiles a limit read files).toOption.getD []

theorem auditFiles_eq_ok_resultsOf
    (h : ∀ file ∈ files, ∃ result, auditNext a limit read file = .ok result) :
    auditFiles a limit read files = .ok (resultsOf a limit read files) := by
  obtain ⟨results, hresults⟩ := exists_auditFiles_iff.mpr h
  rw [resultsOf, hresults]
  rfl

theorem resultsOf_append {xs ys : List String}
    (hx : ∀ file ∈ xs, ∃ result, auditNext a limit read file = .ok result)
    (hy : ∀ file ∈ ys, ∃ result, auditNext a limit read file = .ok result) :
    resultsOf a limit read (xs ++ ys) = resultsOf a limit read xs ++ resultsOf a limit read ys := by
  have hresults : HaveResults a limit read (xs ++ ys)
      (resultsOf a limit read xs ++ resultsOf a limit read ys) :=
    List.rel_append (auditFiles_eq_ok_iff.mp (auditFiles_eq_ok_resultsOf hx))
      (auditFiles_eq_ok_iff.mp (auditFiles_eq_ok_resultsOf hy))
  rw [resultsOf, auditFiles_eq_ok_iff.mpr hresults]
  rfl

/-- **A command composes over its files.** However the arguments are written, if no path
holds U+0000 and the audit of every file that can be read returns, then there is an outcome
for either list of files and for both in a row, told by what each file has to report. The
lines of both come one after the other, the exit status is the worse of the two, and it is
the same whether lines or reports are printed. -/
theorem run_composes {c : Configuration} {argv : Bool → List String → List String}
    {xs ys : List String}
    (hargv : ∀ json, ∀ files ∈ [xs, ys, xs ++ ys],
      Request.ofArguments (argv json files) = .ok (.audit ⟨files, json, limit⟩))
    (hpaths : ∀ file ∈ xs ++ ys, '\x00' ∉ (normalPath file).toList)
    (hreturns : ∀ file ∈ xs ++ ys, Returns c.auditor limit read file) :
    ∃ outcome : Bool → List String → Outcome,
      (∀ json, ∀ files ∈ [xs, ys, xs ++ ys],
        run c read (argv json files) = .ok (outcome json files) ∧
          (outcome json files).Tells c.auditor limit read json files) ∧
      (outcome false (xs ++ ys)).stdout =
        (outcome false xs).stdout ++ (outcome false ys).stdout ∧
      (∀ json, (outcome json (xs ++ ys)).exit = max (outcome json xs).exit (outcome json ys).exit) ∧
      ∀ files ∈ [xs, ys, xs ++ ys], (outcome true files).exit = (outcome false files).exit := by
  have hnext : ∀ file ∈ xs ++ ys, ∃ result, auditNext c.auditor limit read file = .ok result :=
    fun file hfile => exists_auditNext (hpaths file hfile) (hreturns file hfile)
  have hx : ∀ file ∈ xs, ∃ result, auditNext c.auditor limit read file = .ok result :=
    fun file hfile => hnext file (List.mem_append_left _ hfile)
  have hy : ∀ file ∈ ys, ∃ result, auditNext c.auditor limit read file = .ok result :=
    fun file hfile => hnext file (List.mem_append_right _ hfile)
  have happend := resultsOf_append hx hy
  refine ⟨fun json files => outcomeOf c.debug json (resultsOf c.auditor limit read files),
    ?_, ?_, ?_, ?_⟩
  · intro json files hfiles
    have hall : ∀ file ∈ files, ∃ result, auditNext c.auditor limit read file = .ok result := by
      simp only [List.mem_cons, List.not_mem_nil, or_false] at hfiles
      rcases hfiles with rfl | rfl | rfl
      · exact hx
      · exact hy
      · exact hnext
    have hresults := auditFiles_eq_ok_resultsOf hall
    refine ⟨?_, outcomeOf_tells (auditFiles_eq_ok_iff.mp hresults) c.debug json⟩
    exact (run_eq_ok_iff (hargv json files hfiles)).mpr ⟨_, hresults, rfl⟩
  · show String.join _ = String.join _ ++ String.join _
    rw [happend, List.map_append, String.join_append]
  · intro json
    show List.foldl max 0 _ = max (List.foldl max 0 _) (List.foldl max 0 _)
    rw [happend, List.map_append, foldl_max_append]
  · intro files _
    rfl

/-! ### Files behind a separator -/

theorem interpret_plain (i : Interpreted) (before : Run) (files : List String) :
    interpret i before (files.map .plain) =
      (i.close ⟨files.reverse ++ before.texts, before.hasFile || !files.isEmpty⟩).finish := by
  induction files generalizing before with
  | nil =>
      rw [List.map_nil, interpret, List.isEmpty_nil, Bool.not_true, Bool.or_false]
      rfl
  | cons file files ih =>
      rw [List.map_cons, interpret, ih]
      simp

/-- What stands behind a separator is a file, whatever it looks like. -/
theorem interpret_separated {i : Interpreted} {files : List String} (hfiles : i.files = none)
    (h : files ≠ []) :
    interpret i {} (.separator :: files.map .plain) =
      { i with files := some files }.finish := by
  have hsome : files.isEmpty = false := by simpa using h
  rw [interpret, interpret_plain, hsome, Interpreted.close, if_neg (by simp),
    Interpreted.addPlain, if_pos (by simp [hfiles])]
  simp

/-- Any files can be given behind a separator. -/
theorem ofArguments_files (h : files ≠ []) (json : Bool) :
    Request.ofArguments ((if json then ["--json"] else []) ++ "--" :: files) =
      .ok (.audit ⟨files, json, none⟩) := by
  cases json with
  | false => exact interpret_separated rfl h
  | true => exact interpret_separated (i := { json := true }) rfl h

/-- A directory with a page that has two findings and one that is no text. -/
def twoPages : FileTree :=
  ⟨[(["c.html"], .file [0xff]),
    (["p.html"], .file "<p></p><p></p><main></main><nav></nav>".toUTF8.data.toList)]⟩

theorem unreadable_twoPages {file : String} (h : file ∈ ["c.html", "a\x00b"]) :
    Unreadable twoPages.read file := by
  have hnone : ∀ file ∈ ["c.html", "a\x00b"],
      (textAt twoPages.read (normalPath file)).toOption = none := by decide +kernel
  have hfile := hnone file h
  cases htext : textAt twoPages.read (normalPath file) with
  | error e => exact ⟨e, htext⟩
  | ok text => rw [htext] at hfile; cases hfile

theorem returns_twoPages {file : String} (h : file ∈ ["c.html", "a\x00b", "p.html"]) :
    Returns {} none twoPages.read file := by
  simp only [List.mem_cons, List.not_mem_nil, or_false] at h
  rcases h with rfl | rfl | rfl
  · exact (unreadable_twoPages (by decide)).returns
  · exact (unreadable_twoPages (by decide)).returns
  · intro text htext
    obtain ⟨text', htext', haudit⟩ := exists_ok_of_any
      (x := textAt twoPages.read (normalPath "p.html"))
      (q := fun text => (({} : Auditor).audit text none none).toOption.isSome) (by decide +kernel)
    obtain rfl := Except.ok.inj (htext'.symm.trans htext)
    cases hresult : ({} : Auditor).audit text' none none with
    | error e => rw [hresult] at haudit; cases haudit
    | ok result => exact ⟨result, rfl⟩

/-- A page that cannot be read, and another one twice. -/
theorem run_composes_past_unreadable :
    ∃ outcome : Bool → List String → Outcome,
      (∀ json, ∀ files ∈ [["c.html", "p.html"], ["p.html"], ["c.html", "p.html", "p.html"]],
        run {} twoPages.read ((if json then ["--json"] else []) ++ "--" :: files) =
            .ok (outcome json files) ∧
          (outcome json files).Tells {} none twoPages.read json files) ∧
      (outcome false ["c.html", "p.html", "p.html"]).stdout =
        (outcome false ["c.html", "p.html"]).stdout ++ (outcome false ["p.html"]).stdout ∧
      (outcome true ["c.html", "p.html", "p.html"]).exit = 2 := by
  have hargv : ∀ json, ∀ files ∈ [["c.html", "p.html"], ["p.html"],
      ["c.html", "p.html"] ++ ["p.html"]],
      Request.ofArguments ((if json then ["--json"] else []) ++ "--" :: files) =
        .ok (.audit ⟨files, json, none⟩) := by
    intro json files hmem
    have hsome : ∀ files ∈ [["c.html", "p.html"], ["p.html"], ["c.html", "p.html"] ++ ["p.html"]],
        files ≠ [] := by decide
    exact ofArguments_files (hsome files hmem) json
  have hpaths : ∀ file ∈ ["c.html", "p.html"] ++ ["p.html"], '\x00' ∉ (normalPath file).toList := by
    decide +kernel
  have hreturns : ∀ file ∈ ["c.html", "p.html"] ++ ["p.html"],
      Returns {} none twoPages.read file := by
    intro file hfile
    have hsubset : ["c.html", "p.html"] ++ ["p.html"] ⊆ ["c.html", "a\x00b", "p.html"] := by decide
    exact returns_twoPages (hsubset hfile)
  obtain ⟨outcome, houtcome, hlines, -, -⟩ := run_composes (c := {}) hargv hpaths hreturns
  refine ⟨outcome, houtcome, hlines, ?_⟩
  have htells := (houtcome true ["c.html", "p.html", "p.html"] (by decide)).2
  exact htells.exit_two.mpr ⟨"c.html", by decide, unreadable_twoPages (by decide)⟩

/-- **A path that can be none takes the others with it**: it is not skipped as a file that
cannot be read is, although the audit of the page behind it returns. -/
theorem run_stops_at_null :
    (∀ file ∈ ["a\x00b", "p.html"], Returns {} none twoPages.read file) ∧
      (∃ outcome, run {} twoPages.read ["p.html"] = .ok outcome ∧ outcome.exit = 1) ∧
      run {} twoPages.read ["a\x00b", "p.html"] = .error ⟨.nullInPath, "", ""⟩ := by
  obtain ⟨outcome, houtcome, hexit⟩ := exists_ok_of_any
    (x := run {} twoPages.read ["p.html"]) (q := fun outcome => outcome.exit == 1)
    (by decide +kernel)
  refine ⟨fun file hfile => returns_twoPages (List.mem_cons_of_mem _ hfile),
    ⟨outcome, houtcome, eq_of_beq hexit⟩, ?_⟩
  decide +kernel

end PageLandmarks.CommandLine

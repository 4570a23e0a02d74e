import Mathlib.Data.List.Forall2
import PageLandmarks.CommandLine.Batch
import PageLandmarks.Proofs.Assoc
import PageLandmarks.Proofs.AuditOutcome

/-!
# PageLandmarks.Proofs.CommandLine.Batch

**What one file does to the others.** A file that cannot be read or decoded is skipped and
does nothing to them: the outcome of a command is put together from what each of its files
alone comes to (`Outcome.Combines`). But a file whose markup is rejected, or whose path can
be none, ends the command (`run_files`). The files after it are not audited, there is no
exit status, and of the files before it only findings that were to be printed line by line
are out; reports that were to come together are lost (`Interruption.Combines`).

The files are gone through one by one, so everything is said about one file first
(`auditNext_cases`) and then, by induction, about all of them (`auditFiles_eq_ok_iff`,
`auditFiles_eq_error_iff`).
-/

namespace PageLandmarks.CommandLine

/-! ### One file -/

/-- The text of the file at a path. -/
def textAt (read : String → Except ReadError (List UInt8)) (path : String) :
    Except ReadError String :=
  match read path with
  | .error e => .error e
  | .ok bytes => (Text.Utf8.readText bytes).mapError .undecodable

/-- The file does not end the command: its path can be one, and its markup is accepted
unless it cannot be read at all. -/
def Passes (read : String → Except ReadError (List UInt8)) (file : String) : Prop :=
  '\x00' ∉ (normalPath file).toList ∧
    ∀ text, textAt read (normalPath file) = .ok text → ∃ d, Document.parse text = .ok d

/-- The file ends the command with this failure. -/
def Stops (read : String → Except ReadError (List UInt8)) (file : String) (failure : Failure) :
    Prop :=
  ('\x00' ∈ (normalPath file).toList ∧ failure = .nullInPath) ∨
  ('\x00' ∉ (normalPath file).toList ∧ ∃ text rejection,
    textAt read (normalPath file) = .ok text ∧ Document.parse text = .error rejection ∧
      failure = .audit (.page (.rejected rejection)))

/-- Each file has its result. -/
abbrev HaveResults (a : Auditor) (limit : Option Limit)
    (read : String → Except ReadError (List UInt8)) (files : List String)
    (results : List FileResult) : Prop :=
  List.Forall₂ (fun file result => auditNext a limit read file = .ok result) files results

section

variable {a : Auditor} {limit : Option Limit} {read : String → Except ReadError (List UInt8)}
  {file : String} {files : List String}

theorem Stops.not_passes {failure : Failure} (h : Stops read file failure) :
    ¬Passes read file := by
  rintro ⟨hpath, haccepted⟩
  rcases h with ⟨hnull, -⟩ | ⟨-, text, rejection, htext, hrejected, -⟩
  · exact hpath hnull
  · obtain ⟨d, hparse⟩ := haccepted text htext
    rw [hparse] at hrejected
    cases hrejected

theorem Stops.unique {failure failure' : Failure} (h : Stops read file failure)
    (h' : Stops read file failure') : failure = failure' := by
  rcases h with ⟨hnull, rfl⟩ | ⟨hpath, text, rejection, htext, hrejected, rfl⟩
  · rcases h' with ⟨-, rfl⟩ | ⟨hpath, -⟩
    · rfl
    · exact absurd hnull hpath
  · rcases h' with ⟨hnull, -⟩ | ⟨-, text', rejection', htext', hrejected', rfl⟩
    · exact absurd hnull hpath
    · obtain rfl := Except.ok.inj (htext.symm.trans htext')
      obtain rfl := Except.error.inj (hrejected.symm.trans hrejected')
      rfl

/-- The audit of a file is told by its text. -/
theorem auditFile_eq (path : String) :
    auditFile a limit path (read path) =
      match textAt read path with
      | .error e => .ok (.unreadable path e)
      | .ok html =>
        match a.audit html limit none with
        | .error e => .error (.audit e)
        | .ok (report, notes) => .ok (.audited path report notes) := by
  unfold auditFile textAt
  cases read path with
  | error e => rfl
  | ok bytes =>
      dsimp only
      cases Text.Utf8.readText bytes <;> rfl

/-- The next file passes and has a result, or it ends the command. -/
theorem auditNext_cases (husable : a.Usable limit) (file : String) :
    (Passes read file ∧ ∃ result, auditNext a limit read file = .ok result) ∨
      ∃ failure, Stops read file failure ∧ auditNext a limit read file = .error failure := by
  unfold auditNext
  by_cases hpath : '\x00' ∈ (normalPath file).toList
  · rw [if_pos (List.contains_iff_mem.mpr hpath)]
    exact .inr ⟨_, .inl ⟨hpath, rfl⟩, rfl⟩
  · rw [if_neg (by simpa using hpath), auditFile_eq]
    cases htext : textAt read (normalPath file) with
    | error e =>
        refine .inl ⟨⟨hpath, fun text h => ?_⟩, _, rfl⟩
        rw [htext] at h
        cases h
    | ok html =>
        cases hparse : Document.parse html with
        | error rejection =>
            have haudit : a.audit html limit none = .error (.page (.rejected rejection)) :=
              husable.audit_eq_error_iff.mpr ⟨rejection, hparse, rfl⟩
            simp only [haudit]
            exact .inr ⟨_, .inr ⟨hpath, html, rejection, htext, hparse, rfl⟩, rfl⟩
        | ok d =>
            obtain ⟨report, notes, haudit⟩ := husable.exists_report hparse none
            simp only [haudit]
            refine .inl ⟨⟨hpath, fun text h => ⟨d, ?_⟩⟩, _, rfl⟩
            rw [htext] at h
            obtain rfl := Except.ok.inj h
            exact hparse

theorem auditNext_ok_iff (husable : a.Usable limit) :
    (∃ result, auditNext a limit read file = .ok result) ↔ Passes read file := by
  rcases auditNext_cases husable file with ⟨hpass, hok⟩ | ⟨failure, hstop, herror⟩
  · exact iff_of_true hok hpass
  · exact iff_of_false (by simp [herror]) hstop.not_passes

theorem auditNext_error_iff (husable : a.Usable limit) {failure : Failure} :
    auditNext a limit read file = .error failure ↔ Stops read file failure := by
  rcases auditNext_cases husable file with ⟨hpass, result, hok⟩ | ⟨failure', hstop, herror⟩
  · exact iff_of_false (by simp [hok]) fun hstop => hstop.not_passes hpass
  · rw [herror]
    constructor
    · intro h
      exact Except.error.inj h ▸ hstop
    · intro h
      rw [hstop.unique h]

/-- A file has a result if it cannot be read or its audit returns. -/
theorem auditNext_eq_ok {result : FileResult} (h : auditNext a limit read file = .ok result) :
    (∃ e, textAt read (normalPath file) = .error e ∧
      result = .unreadable (normalPath file) e) ∨
    ∃ text report notes, textAt read (normalPath file) = .ok text ∧
      a.audit text limit none = .ok (report, notes) ∧
      result = .audited (normalPath file) report notes := by
  unfold auditNext at h
  split at h
  · cases h
  · rw [auditFile_eq] at h
    split at h
    · rename_i e htext
      exact .inl ⟨e, htext, (Except.ok.inj h).symm⟩
    · rename_i text htext
      split at h
      · cases h
      · rename_i report notes haudit
        exact .inr ⟨text, report, notes, htext, haudit, (Except.ok.inj h).symm⟩

/-- A result is about the path of its file. -/
theorem keyed?_of_auditNext {result : FileResult} {entry : JsonString × Json}
    (h : auditNext a limit read file = .ok result) (hkeyed : result.keyed? = some entry) :
    entry.1 = normalPath file := by
  rcases auditNext_eq_ok h with ⟨e, -, rfl⟩ | ⟨text, report, notes, -, -, rfl⟩
  · cases hkeyed
  · obtain rfl := Option.some.inj hkeyed
    rfl

/-! ### All files -/

theorem auditFiles_cons_of_error {failure : Failure}
    (h : auditNext a limit read file = .error failure) (rest : List String) :
    auditFiles a limit read (file :: rest) = .error (failure, []) := by
  rw [auditFiles, h]
  rfl

theorem auditFiles_cons_of_ok {result : FileResult}
    (h : auditNext a limit read file = .ok result) (rest : List String) :
    auditFiles a limit read (file :: rest) =
      match auditFiles a limit read rest with
      | .error stopped => .error (stopped.1, result :: stopped.2)
      | .ok results => .ok (result :: results) := by
  rw [auditFiles, h]
  cases auditFiles a limit read rest <;> rfl

theorem auditFiles_singleton {result : FileResult} (h : auditNext a limit read file = .ok result) :
    auditFiles a limit read [file] = .ok [result] := by
  rw [auditFiles_cons_of_ok h]
  rfl

/-- All files have been gone through exactly if each of them has its result. -/
theorem auditFiles_eq_ok_iff {results : List FileResult} :
    auditFiles a limit read files = .ok results ↔ HaveResults a limit read files results := by
  induction files generalizing results with
  | nil => simp [auditFiles, eq_comm]
  | cons file rest ih =>
      rw [HaveResults, List.forall₂_cons_left_iff]
      cases hnext : auditNext a limit read file with
      | error e => simp [auditFiles_cons_of_error hnext]
      | ok result =>
          rw [auditFiles_cons_of_ok hnext]
          cases hrest : auditFiles a limit read rest with
          | error e => simp [← ih, hrest]
          | ok results' =>
              simp only [Except.ok.injEq, ← ih, hrest]
              constructor
              · rintro rfl
                exact ⟨result, results', rfl, rfl, rfl⟩
              · rintro ⟨_, _, rfl, rfl, rfl⟩
                rfl

theorem exists_auditFiles_iff :
    (∃ results, auditFiles a limit read files = .ok results) ↔
      ∀ file ∈ files, ∃ result, auditNext a limit read file = .ok result := by
  induction files with
  | nil => simp [auditFiles]
  | cons file rest ih =>
      rw [List.forall_mem_cons, ← ih]
      cases hnext : auditNext a limit read file with
      | error e => simp [auditFiles_cons_of_error hnext]
      | ok result =>
          rw [auditFiles_cons_of_ok hnext]
          cases auditFiles a limit read rest <;> simp

/-- The command ends early at the first file that ends it, with the results of the files
before. -/
theorem auditFiles_eq_error_iff {failure : Failure} {results : List FileResult} :
    auditFiles a limit read files = .error (failure, results) ↔
      ∃ before file after, files = before ++ file :: after ∧
        HaveResults a limit read before results ∧ auditNext a limit read file = .error failure := by
  induction files generalizing results with
  | nil => simp [auditFiles]
  | cons file rest ih =>
      constructor
      · intro h
        cases hnext : auditNext a limit read file with
        | error e =>
            rw [auditFiles_cons_of_error hnext] at h
            obtain ⟨rfl, rfl⟩ := Prod.mk.inj (Except.error.inj h)
            exact ⟨[], file, rest, rfl, .nil, hnext⟩
        | ok result =>
            rw [auditFiles_cons_of_ok hnext] at h
            cases hrest : auditFiles a limit read rest with
            | ok results' => rw [hrest] at h; cases h
            | error stopped =>
                rw [hrest] at h
                obtain ⟨rfl, rfl⟩ := Prod.mk.inj (Except.error.inj h)
                obtain ⟨before, next, after, rfl, hbefore, hfailure⟩ := ih.mp hrest
                exact ⟨file :: before, next, after, rfl, .cons hnext hbefore, hfailure⟩
      · rintro ⟨before, next, after, hsplit, hbefore, hfailure⟩
        cases hbefore with
        | nil =>
            obtain ⟨rfl, rfl⟩ := List.cons.inj hsplit
            exact auditFiles_cons_of_error hfailure _
        | cons hnext hbefore =>
            obtain ⟨rfl, rfl⟩ := List.cons.inj hsplit
            rw [auditFiles_cons_of_ok hnext, ih.mpr ⟨_, next, after, rfl, hbefore, hfailure⟩]

/-! ### The outcome -/

/-- The reports under a path. -/
def reportsAt (path : String) (reports : List (JsonString × Json)) : List (JsonString × Json) :=
  reports.filter fun r => r.1 == .text path

/-- The outcome of a command is put together from what each of its files alone comes to:
the worst exit status, and what was printed, one after the other. Reports are entries of
one object, which has for the path of a file what the file alone has. -/
structure Outcome.Combines (json : Bool) (files : List String) (parts : List Outcome)
    (whole : Outcome) : Prop where
  exit : whole.exit = (parts.map Outcome.exit).foldl max 0
  exit_mem : whole.exit ∈ [0, 1, 2]
  stderr : whole.stderr = String.join (parts.map Outcome.stderr)
  lines : json = false → whole.stdout = String.join (parts.map Outcome.stdout)
  reports : json = true → ∃ reports : List (JsonString × Json),
    whole.stdout = (Json.object reports).pretty ++ "\n" ∧
      List.Forall₂ (fun file part => part.stdout =
          (Json.object (reportsAt (normalPath file) reports)).pretty ++ "\n") files parts

/-- What a command printed before a file ended it is put together from what each of the files
before alone comes to, as far as findings are printed line by line. Of reports nothing is
printed. -/
structure Interruption.Combines (json : Bool) (parts : List Outcome) (whole : Interruption) :
    Prop where
  stderr : whole.stderr = String.join (parts.map Outcome.stderr)
  lines : json = false → whole.stdout = String.join (parts.map Outcome.stdout)
  reports : json = true → whole.stdout = ""

/-- Each part is the outcome of every command that has one of the files alone. -/
abbrev OutcomesAlone (c : Configuration) (read : String → Except ReadError (List UInt8))
    (json : Bool) (limit : Option Limit) (files : List String) (parts : List Outcome) : Prop :=
  List.Forall₂ (fun file part => ∀ alone,
    Request.ofArguments alone = .ok (.audit ⟨[file], json, limit⟩) →
      run c read alone = .ok part) files parts

theorem exists_auditNext_of_mem {results : List FileResult} {result : FileResult}
    (h : HaveResults a limit read files results) (hmem : result ∈ results) :
    ∃ file ∈ files, auditNext a limit read file = .ok result := by
  induction h with
  | nil => cases hmem
  | cons hnext _ ih =>
      rcases List.mem_cons.mp hmem with rfl | hmem
      · exact ⟨_, List.mem_cons_self, hnext⟩
      · obtain ⟨file, hfile, hresult⟩ := ih hmem
        exact ⟨file, List.mem_cons_of_mem _ hfile, hresult⟩

theorem mem_results {results : List FileResult} {result : FileResult}
    (h : HaveResults a limit read files results) (hfile : file ∈ files)
    (hnext : auditNext a limit read file = .ok result) : result ∈ results := by
  induction h with
  | nil => cases hfile
  | cons hfirst _ ih =>
      rcases List.mem_cons.mp hfile with rfl | hfile
      · obtain rfl := Except.ok.inj (hnext.symm.trans hfirst)
        exact List.mem_cons_self
      · exact List.mem_cons_of_mem _ (ih hfile)

/-- Among the reports of all files, that under the path of one file is its own. -/
theorem reportsAt_ofOccurrences {results : List FileResult} {result : FileResult}
    (h : HaveResults a limit read files results) (hfile : file ∈ files)
    (hnext : auditNext a limit read file = .ok result) :
    reportsAt (normalPath file) (Assoc.ofOccurrences (results.filterMap FileResult.keyed?)) =
      result.keyed?.toList := by
  rw [reportsAt, Assoc.filter_ofOccurrences]
  refine Assoc.ofOccurrences_of_mem_iff fun entry => ?_
  rw [List.mem_filter, List.mem_filterMap]
  constructor
  · rintro ⟨⟨other, hother, hkeyed⟩, hpath⟩
    obtain ⟨file', -, hnext'⟩ := exists_auditNext_of_mem h hother
    -- a file at the same path has the same result
    have hsame : normalPath file' = normalPath file := by
      have heq := eq_of_beq hpath
      rw [keyed?_of_auditNext hnext' hkeyed] at heq
      exact JsonString.text.inj heq
    rw [auditNext, hsame] at hnext'
    obtain rfl := Except.ok.inj (hnext'.symm.trans hnext)
    exact hkeyed
  · intro hkeyed
    exact ⟨⟨result, mem_results h hfile hnext, hkeyed⟩,
      beq_iff_eq.mpr (keyed?_of_auditNext hnext hkeyed)⟩

theorem status_le (result : FileResult) : result.status ≤ 2 := by
  cases result with
  | unreadable path e => exact Nat.le_refl 2
  | audited path report notes =>
      rw [FileResult.status]
      split <;> omega

theorem foldl_max_le {ns : List Nat} {n bound : Nat} (hn : n ≤ bound) (h : ∀ m ∈ ns, m ≤ bound) :
    ns.foldl max n ≤ bound := by
  induction ns generalizing n with
  | nil => exact hn
  | cons m ns ih =>
      obtain ⟨hm, hns⟩ := List.forall_mem_cons.mp h
      exact ih (Nat.max_le.mpr ⟨hn, hm⟩) hns

theorem reportsObject_singleton (result : FileResult) :
    reportsObject [result] = .object result.keyed?.toList := by
  refine congrArg Json.object (Assoc.ofOccurrences_of_mem_iff fun entry => ?_)
  simp

/-- The notes of all files are the notes of each, one after the other. -/
theorem noteLines_eq_join (debug json : Bool) (results : List FileResult) :
    noteLines debug results =
      String.join ((results.map fun result => outcomeOf debug json [result]).map
        Outcome.stderr) := by
  induction results with
  | nil => rfl
  | cons result results ih =>
      rw [List.map_cons, List.map_cons, String.join_cons, ← ih]
      simp only [outcomeOf, noteLines, shownNotes, List.flatMap_cons, List.flatMap_nil,
        List.append_nil, List.filter_append, List.map_append, String.join_append]

/-- The lines of all files are the lines of each, one after the other. -/
theorem printedLines_eq_join (debug : Bool) (results : List FileResult) :
    printedLines results =
      String.join ((results.map fun result => outcomeOf debug false [result]).map
        Outcome.stdout) := by
  simp [printedLines, outcomeOf, Function.comp_def]

/-- What has been made of all files combines what is made of each. -/
theorem outcomeOf_combines {results : List FileResult}
    (h : HaveResults a limit read files results) (debug json : Bool) :
    (outcomeOf debug json results).Combines json files
      (results.map fun result => outcomeOf debug json [result]) where
  exit := by simp [outcomeOf, Function.comp_def]
  exit_mem := by
    have hle : (outcomeOf debug json results).exit ≤ 2 :=
      foldl_max_le (by omega) (List.forall_mem_map.mpr fun result _ => status_le result)
    simp only [List.mem_cons, List.not_mem_nil, or_false]
    omega
  stderr := noteLines_eq_join debug json results
  lines := by
    rintro rfl
    exact printedLines_eq_join debug results
  reports := by
    rintro rfl
    refine ⟨_, rfl, ?_⟩
    rw [List.forall₂_map_right_iff, List.forall₂_iff_zip]
    refine ⟨h.length_eq, fun {file result} hzip => ?_⟩
    have hnext := (List.forall₂_iff_zip.mp h).2 hzip
    rw [reportsAt_ofOccurrences h (List.of_mem_zip hzip).1 hnext, outcomeOf,
      reportsObject_singleton]
    rfl

/-- What was printed of the files before a failure combines what is printed of each. -/
theorem interruptionOf_combines (debug json : Bool) (results : List FileResult)
    (failure : Failure) :
    (interruptionOf debug json results failure).Combines json
      (results.map fun result => outcomeOf debug json [result]) where
  stderr := noteLines_eq_join debug json results
  lines := by
    rintro rfl
    exact printedLines_eq_join debug results
  reports := by
    rintro rfl
    rfl

/-! ### Running the command -/

section Run

variable {c : Configuration} {argv : List String} {arguments : Arguments} {json : Bool}

theorem run_eq_ok_iff (h : Request.ofArguments argv = .ok (.audit arguments)) {outcome : Outcome} :
    run c read argv = .ok outcome ↔
      ∃ results, auditFiles c.auditor arguments.limit read arguments.files = .ok results ∧
        outcome = outcomeOf c.debug arguments.json results := by
  rw [run, h]
  dsimp only
  cases auditFiles c.auditor arguments.limit read arguments.files <;> simp [eq_comm]

theorem run_eq_error_iff (h : Request.ofArguments argv = .ok (.audit arguments))
    {interruption : Interruption} :
    run c read argv = .error interruption ↔ ∃ failure results,
      auditFiles c.auditor arguments.limit read arguments.files = .error (failure, results) ∧
        interruption = interruptionOf c.debug arguments.json results failure := by
  rw [run, h]
  dsimp only
  cases auditFiles c.auditor arguments.limit read arguments.files with
  | ok results => simp
  | error stopped =>
      obtain ⟨failure, results⟩ := stopped
      simp [eq_comm]

/-- A file with a result comes to what is made of this result, if it is alone. -/
theorem outcomesAlone_of_haveResults {results : List FileResult}
    (h : HaveResults c.auditor limit read files results) :
    OutcomesAlone c read json limit files
      (results.map fun result => outcomeOf c.debug json [result]) := by
  rw [OutcomesAlone, List.forall₂_map_right_iff]
  refine h.imp fun file result hnext alone halone => ?_
  exact (run_eq_ok_iff halone).mpr ⟨[result], auditFiles_singleton hnext, rfl⟩

theorem passes_of_haveResults {a : Auditor} (husable : a.Usable limit) {results : List FileResult}
    (h : HaveResults a limit read files results) : ∀ file ∈ files, Passes read file := by
  intro file hfile
  exact (auditNext_ok_iff husable).mp
    (exists_auditFiles_iff.mp ⟨results, auditFiles_eq_ok_iff.mpr h⟩ file hfile)

/-- **What a command comes to.** With a usable auditor there is an outcome exactly if every
file passes, and it is put together from the outcomes of the commands that have one of the
files each. Otherwise the command fails as the first file that stops it says, and what it has
printed is put together from the outcomes of the files before. -/
theorem run_files (husable : c.auditor.Usable limit)
    (hargv : Request.ofArguments argv = .ok (.audit ⟨files, json, limit⟩)) :
    ((∃ outcome, run c read argv = .ok outcome) ↔ ∀ file ∈ files, Passes read file) ∧
    (∀ outcome, run c read argv = .ok outcome → ∃ parts : List Outcome,
      OutcomesAlone c read json limit files parts ∧ outcome.Combines json files parts) ∧
    (∀ failure, (∃ interruption, run c read argv = .error interruption ∧
        interruption.failure = failure) ↔
      ∃ before file after, files = before ++ file :: after ∧
        (∀ earlier ∈ before, Passes read earlier) ∧ Stops read file failure) ∧
    ∀ interruption, run c read argv = .error interruption →
      ∃ before file after, files = before ++ file :: after ∧
        (∀ earlier ∈ before, Passes read earlier) ∧ Stops read file interruption.failure ∧
        ∃ parts : List Outcome, OutcomesAlone c read json limit before parts ∧
          interruption.Combines json parts := by
  have hinterrupted : ∀ interruption, run c read argv = .error interruption →
      ∃ before file after, files = before ++ file :: after ∧
        (∀ earlier ∈ before, Passes read earlier) ∧ Stops read file interruption.failure ∧
        ∃ parts : List Outcome, OutcomesAlone c read json limit before parts ∧
          interruption.Combines json parts := by
    intro interruption hrun
    obtain ⟨failure, results, hfiles, rfl⟩ := (run_eq_error_iff hargv).mp hrun
    obtain ⟨before, file, after, hsplit, hresults, hfailure⟩ := auditFiles_eq_error_iff.mp hfiles
    exact ⟨before, file, after, hsplit, passes_of_haveResults husable hresults,
      (auditNext_error_iff husable).mp hfailure, _, outcomesAlone_of_haveResults hresults,
      interruptionOf_combines c.debug json results failure⟩
  refine ⟨?_, ?_, fun failure => ⟨?_, ?_⟩, hinterrupted⟩
  · simp only [run_eq_ok_iff hargv]
    rw [exists_comm]
    simp only [exists_and_left, exists_eq, and_true]
    rw [exists_auditFiles_iff]
    exact forall₂_congr fun file _ => auditNext_ok_iff husable
  · intro outcome houtcome
    obtain ⟨results, hfiles, rfl⟩ := (run_eq_ok_iff hargv).mp houtcome
    have hresults := auditFiles_eq_ok_iff.mp hfiles
    exact ⟨_, outcomesAlone_of_haveResults hresults, outcomeOf_combines hresults c.debug json⟩
  · intro ⟨interruption, hrun, hfailure⟩
    obtain ⟨before, file, after, hsplit, hpasses, hstops, -⟩ := hinterrupted interruption hrun
    exact ⟨before, file, after, hsplit, hpasses, hfailure ▸ hstops⟩
  · intro ⟨before, file, after, hsplit, hpasses, hstops⟩
    obtain ⟨results, hresults⟩ := exists_auditFiles_iff.mpr fun earlier hearlier =>
      (auditNext_ok_iff husable).mpr (hpasses earlier hearlier)
    refine ⟨_, (run_eq_error_iff hargv).mpr ⟨failure, results, ?_, rfl⟩, rfl⟩
    exact auditFiles_eq_error_iff.mpr ⟨before, file, after, hsplit,
      auditFiles_eq_ok_iff.mp hresults, (auditNext_error_iff husable).mpr hstops⟩

end Run

end

/-- Findings that are printed line by line are out before a later file ends the command. -/
example :
    run {} (FileTree.read ⟨[(["a"], .file "x".toUTF8.data.toList),
        (["b"], .file "<![x]>".toUTF8.data.toList)]⟩) ["a", "b"] =
      .error ⟨.audit (.page (.rejected (.unknownKeyword "x"))),
        "a:1: warning: No primary content landmark detected\n", ""⟩ := by
  decide +kernel

/-- Any file can be given alone, behind a separator. -/
theorem ofArguments_separated (file : String) :
    Request.ofArguments ["--", file] = .ok (.audit ⟨[file], false, none⟩) ∧
      Request.ofArguments ["--json", "--", file] = .ok (.audit ⟨[file], true, none⟩) :=
  ⟨rfl, rfl⟩

/-- A directory with a page that is accepted, one that is rejected and one that is no
text. -/
def threePages : FileTree :=
  ⟨[(["a.html"], .file "<main></main>".toUTF8.data.toList),
    (["b.html"], .file "<![x]>".toUTF8.data.toList), (["c.html"], .file [0xff])]⟩

/-- A file that is no text and one that is missing are skipped. -/
theorem run_files_past_unreadable :
    ∃ outcome parts, run {} threePages.read ["c.html", "a.html", "d.html"] = .ok outcome ∧
      List.Forall₂ (fun file part => run {} threePages.read ["--", file] = .ok part)
        ["c.html", "a.html", "d.html"] parts ∧
      outcome.Combines false ["c.html", "a.html", "d.html"] parts := by
  obtain ⟨outcome, houtcome, -⟩ := exists_ok_of_any
    (x := run {} threePages.read ["c.html", "a.html", "d.html"]) (q := fun _ => true)
    (by decide +kernel)
  have hargv : Request.ofArguments ["c.html", "a.html", "d.html"] =
      .ok (.audit ⟨["c.html", "a.html", "d.html"], false, none⟩) := by decide
  obtain ⟨parts, halone, hcombines⟩ :=
    (run_files Auditor.usable_default hargv).2.1 outcome houtcome
  refine ⟨outcome, parts, houtcome, ?_, hcombines⟩
  exact halone.imp fun file part hpart => hpart _ (ofArguments_separated file).1

/-- **A file that hides another**: the report on a page is printed if it is the only one,
and is lost together with the exit status if a page with rejected markup comes after it. -/
theorem run_files_loses_report :
    (∃ outcome, run {} threePages.read ["--json", "a.html"] = .ok outcome ∧ outcome.exit = 0) ∧
      run {} threePages.read ["--json", "a.html", "b.html"] =
        .error ⟨.audit (.page (.rejected (.unknownKeyword "x"))), "", ""⟩ := by
  obtain ⟨outcome, houtcome, hexit⟩ := exists_ok_of_any
    (x := run {} threePages.read ["--json", "a.html"]) (q := fun outcome => outcome.exit == 0)
    (by decide +kernel)
  exact ⟨⟨outcome, houtcome, eq_of_beq hexit⟩, by decide +kernel⟩

end PageLandmarks.CommandLine

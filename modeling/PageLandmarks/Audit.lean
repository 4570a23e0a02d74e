import PageLandmarks.Detector
import PageLandmarks.Limit
import PageLandmarks.Report
import PageLandmarks.Settings

/-!
# PageLandmarks.Audit

**The audit of a page**: both landmarks are looked for, their order is judged, and
what is wrong is reported, up to a limit. Without main content that is the only
problem; otherwise a navigation in the wrong place comes before main content in
the wrong place.
-/

namespace PageLandmarks

/-- The description of an element as a landmark. -/
def describe (p : Page) (landmark : Landmark) (id : Option ElementId) : Option LandmarkInfo :=
  (id.bind p.find?).map fun e =>
    ⟨e.name, e.tag.label, e.tag.line.map Int.ofNat, e.tag.marks landmark⟩

/-- A problem, about an element if one is given. -/
def finding (kind : FindingKind) (e : Option Element) : Finding :=
  ⟨kind, kind.severity, kind.message, e.map fun e => e.tag.label,
    e.bind fun e => e.tag.line.map Int.ofNat⟩

/-- The problems of a page with these landmarks, before any limit. -/
def problems (p : Page) (main nav : Option ElementId) (navBeforeMain mainFirst : Bool) :
    List Finding :=
  match main with
  | none => [finding .missingMain none]
  | some m =>
    (match nav with
      | some n => if navBeforeMain then [] else [finding .navAfterMain (p.find? n)]
      | none => []) ++
    (if mainFirst then [] else [finding .mainNotFirst (p.find? m)])

/-- The report on a page: the landmarks that a detector finds, and the problems
up to a limit if there is one, or none at all. -/
def Page.report (p : Page) (detector : Detector) (limit : Option Int) (exclude : Bool) :
    Report :=
  let main := (Detector.main p).id?
  let nav := (detector.navigation p).id?
  let navBeforeMain := main.isSome && nav.isSome && p.navBeforeMain main nav
  let mainFirst := p.mainFirst main nav.isSome
  let all := if exclude then [] else problems p main nav navBeforeMain mainFirst
  let findings := cut limit all
  ⟨describe p .main main, describe p .navigation nav, navBeforeMain, mainFirst, findings,
    findings.length < all.length⟩

/-- What is worth noting about an audit of a page that ended in a report. -/
def Page.notes (p : Page) (detector : Detector) (r : Report) : List Note :=
  Detector.mainNotes (Detector.main p) ++ Detector.navigationNotes (detector.navigation p) ++
    [.audited (r.main.map LandmarkInfo.label) (r.navigation.map LandmarkInfo.label)
      r.findings.length]

/-! ### Auditors -/

/-- How many links an inferred navigation has at least. -/
inductive Threshold
  /-- This many. -/
  | links (n : Int)
  /-- A value of this kind, to which no number can be compared. -/
  | incomparable (kind : String)
  deriving Repr, DecidableEq

/-- Why there is no report. -/
inductive AuditError
  /-- The page cannot be read. -/
  | page (e : PageError)
  /-- The links of an element cannot be compared to the threshold. -/
  | incomparableThreshold (kind : String)
  /-- The problems cannot be cut at the limit. -/
  | unusableLimit
  deriving Repr, DecidableEq

/-- The wording of an audit error. -/
def AuditError.message : AuditError → String
  | page e => e.message
  | incomparableThreshold kind =>
    "'>=' not supported between instances of 'int' and '" ++ kind ++ "'"
  | unusableLimit => "slice indices must be integers or None or have an __index__ method"

/-- The navigation of a page has to be inferred, and there is something to look
through. -/
def Page.infersNavigation (p : Page) : Bool :=
  p.navigations.isEmpty && p.bodyChildren.any fun e => !e.tag.isScript

/-- The detector with a threshold, for a page. What the threshold is matters only
where the navigation has to be inferred. -/
def Threshold.detector (t : Threshold) (p : Page) : Except AuditError Detector :=
  match t with
  | links n => .ok ⟨n⟩
  | incomparable kind =>
    if p.infersNavigation then .error (.incomparableThreshold kind) else .ok {}

/-- The number at which problems are cut, if there is one. -/
def Limit.bound : Limit → Except AuditError (Option Int)
  | unlimited => .ok none
  | atMost n => .ok (some n)
  | unusable => .error .unusableLimit

/-- An auditor: what an audit depends on apart from the page. -/
structure Auditor where
  /-- The choice of a reader. -/
  reader : ReaderChoice := .named [({} : Settings).htmlParser]
  /-- How many problems are reported. -/
  limit : Limit := .atMost ({} : Settings).maxProblems
  /-- No problems are reported. -/
  exclude : Bool := ({} : Settings).semanticExclude
  /-- How many links an inferred navigation has at least. -/
  threshold : Threshold := .links ({} : Settings).navMinLinks
  deriving Repr, DecidableEq

namespace Auditor

/-- The auditor that settings ask for. The reader of this name is used if they
name none. -/
def ofSettings (s : Settings) (defaultReader : String) : Auditor :=
  ⟨.named [if s.htmlParser = "" then defaultReader else s.htmlParser], .atMost s.maxProblems,
    s.semanticExclude, .links s.navMinLinks⟩

/-- Audit a page. The limit and the exclusion are those of the auditor unless they
are given. Where all problems are excluded the limit plays no part. -/
def audit (a : Auditor) (html : String) (limit : Option Limit) (exclude : Option Bool) :
    Except AuditError (Report × List Note) := do
  let p ← (Page.read a.reader html).mapError .page
  let detector ← a.threshold.detector p
  let exclude := exclude.getD a.exclude
  let bound ← if exclude then .ok none else (limit.getD a.limit).bound
  let report := p.report detector bound exclude
  return (report, p.notes detector report)

end Auditor

end PageLandmarks

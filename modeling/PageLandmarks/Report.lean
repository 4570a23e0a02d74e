import PageLandmarks.Json.Basic

/-!
# PageLandmarks.Report

**The result of an audit**: the landmarks found, whether they are in order, and
the problems. `Report.toJson` is the form in which every way to run an audit
hands it out.
-/

namespace PageLandmarks

/-- The problems that an audit can find. -/
inductive FindingKind
  /-- There is no main content. -/
  | missingMain
  /-- The navigation comes after the main content. -/
  | navAfterMain
  /-- Other content of the body comes before the main content. -/
  | mainNotFirst
  deriving Repr, DecidableEq

/-- How serious a problem is. -/
inductive Severity
  | error
  | warning
  | information
  | hint
  deriving Repr, DecidableEq

namespace FindingKind

/-- All kinds of problems. -/
def all : List FindingKind := [missingMain, navAfterMain, mainNotFirst]

/-- The name of a kind of problem. -/
def name : FindingKind → String
  | missingMain => "missing_main"
  | navAfterMain => "nav_after_main"
  | mainNotFirst => "main_not_first"

/-- The kind of problem with this name. -/
def named? (name : String) : Option FindingKind := all.find? fun k => k.name == name

/-- The wording of a problem. -/
def message : FindingKind → String
  | missingMain => "No primary content landmark detected"
  | navAfterMain => "Navigation should precede main content"
  | mainNotFirst => "Main content should appear first"

/-- How serious a problem is. -/
def severity : FindingKind → Severity
  | missingMain => .warning
  | navAfterMain => .information
  | mainNotFirst => .hint

end FindingKind

namespace Severity

/-- All severities. -/
def all : List Severity := [error, warning, information, hint]

/-- The number of a severity; the most serious is 1. -/
def level : Severity → Int
  | error => 1
  | warning => 2
  | information => 3
  | hint => 4

/-- The severity with this number. -/
def ofLevel? (n : Int) : Option Severity := all.find? fun s => s.level == n

/-- The name of a severity. -/
def name : Severity → String
  | error => "error"
  | warning => "warning"
  | information => "information"
  | hint => "hint"

end Severity

/-- A landmark that was found. -/
structure LandmarkInfo where
  /-- The name of its element. -/
  tag : String
  /-- The label of its element. -/
  label : String
  /-- The line of its start tag. -/
  line : Option Int := none
  /-- It is marked as the landmark and not just inferred. -/
  explicit : Bool := false
  deriving Repr, DecidableEq

/-- A problem that was found. -/
structure Finding where
  /-- What the problem is. -/
  kind : FindingKind
  /-- How serious it is. -/
  severity : Severity
  /-- Its wording. -/
  message : String
  /-- The label of the element that it is about. -/
  element : Option String := none
  /-- The line of that element. -/
  line : Option Int := none
  deriving Repr, DecidableEq

/-- The result of an audit. -/
structure Report where
  /-- The main content. -/
  main : Option LandmarkInfo := none
  /-- The navigation. -/
  navigation : Option LandmarkInfo := none
  /-- Both were found and the navigation comes first. -/
  navBeforeMain : Bool := false
  /-- The place of the main content is acceptable. -/
  mainFirst : Bool := true
  /-- The problems reported. -/
  findings : List Finding := []
  /-- There were more problems than could be reported. -/
  truncated : Bool := false
  deriving Repr, DecidableEq

/-- Some problem is reported. -/
def Report.hasFindings (r : Report) : Bool := !r.findings.isEmpty

/-! ### As JSON -/

/-- A landmark as JSON. -/
def LandmarkInfo.toJson (i : LandmarkInfo) : Json :=
  .object [("tag", .string i.tag), ("label", .string i.label), ("line", .ofInt? i.line),
    ("explicit", .bool i.explicit)]

/-- A problem as JSON. -/
def Finding.toJson (f : Finding) : Json :=
  .object [("type", .string f.kind.name), ("severity", .int f.severity.level),
    ("message", .string f.message), ("element", .ofString? f.element), ("line", .ofInt? f.line)]

/-- A landmark that may be missing as JSON. -/
def LandmarkInfo.toJson? : Option LandmarkInfo → Json
  | some i => i.toJson
  | none => .null

/-- A report as JSON. -/
def Report.toJson (r : Report) : Json :=
  .object [("main", LandmarkInfo.toJson? r.main),
    ("navigation", LandmarkInfo.toJson? r.navigation),
    ("nav_before_main", .bool r.navBeforeMain), ("main_first", .bool r.mainFirst),
    ("findings", .array (r.findings.map Finding.toJson)), ("truncated", .bool r.truncated)]

/-! ### From the values of a contract -/

/-- Why a value cannot be part of a report. -/
inductive ContractError
  | notFindingKind (value : Json)
  | notSeverity (value : Json)

/-- The wording of a contract error. -/
def ContractError.message : ContractError → String
  | notFindingKind value => value.display ++ " is not a valid FindingType"
  | notSeverity value => value.display ++ " is not a valid Severity"

/-- The kind of problem that a value names. -/
def FindingKind.ofJson (v : Json) : Except ContractError FindingKind :=
  match v with
  | .string (.text s) =>
    match named? s with
    | some k => .ok k
    | none => .error (.notFindingKind v)
  | _ => .error (.notFindingKind v)

/-- The severity that a value numbers. The truth values count as 1 and 0. -/
def Severity.ofJson (v : Json) : Except ContractError Severity :=
  let level? : Option Int :=
    match v with
    | .int n => some n
    | .bool b => some (if b then 1 else 0)
    | .real d => d.whole?
    | _ => none
  match level?.bind ofLevel? with
  | some s => .ok s
  | none => .error (.notSeverity v)

end PageLandmarks

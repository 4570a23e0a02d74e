import PageLandmarks.Audit

/-!
# PageLandmarks.Configuration

**What is in force while a program runs.** It begins as the settings that were
resolved. From then on any value can be assigned to the name of a setting, and
nothing checks it before it is used: it is taken for true or false
(`Json.isTruthy`), for a limit, for the choice of a reader or for a number of
links, and where it can be none of these that is noticed only by the audit that
needs it.

One setting is also read when the program starts: the web service is set up then,
with the number of links that a navigation has (`Configuration.serviceLinks`), and
keeps it whatever is assigned later.
-/

namespace PageLandmarks

/-- What is in force. -/
structure Configuration where
  /-- The command line notes everything. -/
  debug : Bool := false
  /-- The auditor in use. -/
  auditor : Auditor := {}
  /-- How many links a navigation has for the web service: what the settings said
  when it was set up. -/
  serviceLinks : Int := ({} : Settings).navMinLinks

namespace Configuration

/-- What settings put in force. -/
def ofSettings (s : Settings) : Configuration :=
  ⟨s.debug, .ofSettings s s.htmlParser, s.navMinLinks⟩

/-! ### Values without a check -/

/-- The limit that a value stands for. -/
def limitOf : Json → Limit
  | .null => .unlimited
  | .int n => .atMost n
  | .bool b => .atMost (if b then 1 else 0)
  | _ => .unusable

/-- The number of links that a value stands for. One with a fraction is reached by
the next whole number. -/
def thresholdOf (v : Json) : Threshold :=
  match v with
  | .int n => .links n
  | .bool b => .links (if b then 1 else 0)
  | .real d =>
    match d.ceiling? with
    | some n => .links n
    | none => .incomparable v.kindName
  | _ => .incomparable v.kindName

/-- The readers that the items of a list ask for. An item that holds others cannot
be looked up, and one that is no text cannot be shown among the names. -/
def readersOf (items : List Json) : ReaderChoice :=
  match items.find? fun v => !v.isScalar with
  | some v => .unusable (.unhashable v.kindName)
  | none =>
    let names := items.filterMap Json.text?
    match items.findIdx? fun v => v.text?.isNone with
    | some index =>
      if names.any Page.readerNames.contains then .named names
      else .unusable (.notText index ((items.getD index .null).kindName))
    | none => .named names

/-- The reader that a value asks for. -/
def readerOf (v : Json) : ReaderChoice :=
  match v with
  | .null | .array [] | .object [] => .any
  | .string s => .named s.text?.toList
  | .array items => readersOf items
  | .object fields => .named (fields.filterMap fun f => f.1.text?)
  | _ => .unusable (.noLength v.kindName)

/-- Assign a value to the name of a setting. Other names have no effect, and the web
service stays as it was set up. -/
def assign (c : Configuration) (name : String) (v : Json) : Configuration :=
  match Settings.fields.find? fun f => f.name == name with
  | some .debug => { c with debug := v.isTruthy }
  | some .htmlParser => { c with auditor.reader := readerOf v }
  | some .maxProblems => { c with auditor.limit := limitOf v }
  | some .semanticExclude => { c with auditor.exclude := v.isTruthy }
  | some .navMinLinks => { c with auditor.threshold := thresholdOf v }
  | some .appName | none => c

end Configuration

end PageLandmarks

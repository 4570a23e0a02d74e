import PageLandmarks.Coercion
import PageLandmarks.Dotenv
import PageLandmarks.Text.Lowercase

/-!
# PageLandmarks.Settings

**Settings and where they come from.** Each field takes its value from the first
source that has one: keywords, the environment, the `.env` file, its default.
Names are compared without regard to case. Of several spellings in one source the
last counts, but among the keywords the name itself does, or else the first. Only
the value that counts is checked, and all fields are checked before any is refused.
-/

namespace PageLandmarks

/-- The settings of the audit. -/
structure Settings where
  /-- The name of the application. -/
  appName : String := "Landmark Lint"
  /-- The command line notes everything. -/
  debug : Bool := false
  /-- The name of the reader. -/
  htmlParser : String := "html.parser"
  /-- How many problems are reported for a page. -/
  maxProblems : Int := 100
  /-- No problems are reported. -/
  semanticExclude : Bool := false
  /-- How many links an inferred navigation has at least. -/
  navMinLinks : Int := 3
  deriving Repr, DecidableEq

namespace Settings

/-- The fields of the settings. -/
inductive Field
  | appName
  | debug
  | htmlParser
  | maxProblems
  | semanticExclude
  | navMinLinks
  deriving Repr, DecidableEq

/-- The name of a field. -/
def Field.name : Field → String
  | appName => "APP_NAME"
  | debug => "DEBUG"
  | htmlParser => "HTML_PARSER"
  | maxProblems => "MAX_NUMBER_OF_PROBLEMS"
  | semanticExclude => "SEMANTIC_EXCLUDE"
  | navMinLinks => "NAV_MIN_LINKS"

/-- All fields, in the order of their declaration. -/
def fields : List Field :=
  [.appName, .debug, .htmlParser, .maxProblems, .semanticExclude, .navMinLinks]

/-! ### Sources -/

/-- Where values can come from, the first source before the others. -/
structure Sources where
  /-- The values given directly. -/
  keywords : List (String × Json) := []
  /-- The variables of the environment. -/
  environment : List (String × String) := []
  /-- The text of the `.env` file. -/
  dotenv : String := ""

/-- The name is that of the field, whatever its case. -/
def Field.isSpelled (field : Field) (name : String) : Bool :=
  Text.lowercase name == Text.lowercase field.name

/-- The value of a field in one source: the last one. -/
def given? {α : Type} (field : Field) (entries : List (String × α)) : Option α :=
  (entries.reverse.find? fun e => field.isSpelled e.1).map Prod.snd

/-- The value of a field among the keywords: that of its own name, or else of the
first other spelling. -/
def keyword? (field : Field) (keywords : List (String × Json)) : Option Json :=
  (keywords.lookup field.name).or
    ((keywords.find? fun k => field.isSpelled k.1).map Prod.snd)

/-- The value of a field in the `.env` file. A variable without a value has
none. -/
def Sources.dotenv? (s : Sources) (field : Field) : Option String :=
  (given? field (Dotenv.entries s.environment s.dotenv)).join

/-- The value of a field in the first source that has one. -/
def Sources.value? (s : Sources) (field : Field) : Option Json :=
  (keyword? field s.keywords).or
    (((given? field s.environment).or (s.dotenv? field)).map fun v => .string v)

/-! ### Checks -/

/-- Give a field a value, if the value can be taken. -/
def put (s : Settings) (v : Json) : Field → Except FieldFault Settings
  | .appName => (Coercion.string v).map fun x => { s with appName := x }
  | .debug => (Coercion.bool v).map fun x => { s with debug := x }
  | .htmlParser => (Coercion.string v).map fun x => { s with htmlParser := x }
  | .maxProblems => (Coercion.intFrom 0 v).map fun x => { s with maxProblems := x }
  | .semanticExclude => (Coercion.bool v).map fun x => { s with semanticExclude := x }
  | .navMinLinks => (Coercion.intFrom 1 v).map fun x => { s with navMinLinks := x }

/-- Settle the given fields one after another: the settings so far, and the
values that cannot be taken. -/
def settle (sources : Sources) : List Field → Settings × List FieldError
  | [] => ({}, [])
  | field :: rest =>
    let (settings, errors) := settle sources rest
    match sources.value? field with
    | none => (settings, errors)
    | some v =>
      match settings.put v field with
      | .ok settings => (settings, errors)
      | .error fault => (settings, ⟨[.string field.name], fault, v⟩ :: errors)

/-- The settings that the sources give, or all values that cannot be taken, in
the order of the fields. -/
def resolve (sources : Sources) : Except (List FieldError) Settings :=
  match settle sources fields with
  | (settings, []) => .ok settings
  | (_, errors) => .error errors

/-- The settings as JSON. -/
def toJson (s : Settings) : Json :=
  .object [(Field.appName.name, .string s.appName), (Field.debug.name, .bool s.debug),
    (Field.htmlParser.name, .string s.htmlParser), (Field.maxProblems.name, .int s.maxProblems),
    (Field.semanticExclude.name, .bool s.semanticExclude),
    (Field.navMinLinks.name, .int s.navMinLinks)]

end Settings

end PageLandmarks

import PageLandmarks.Landmark

/-!
# PageLandmarks.Log

**What is worth noting about an audit**, with its level, the part of the program
that notes it, and its wording.
-/

namespace PageLandmarks

/-- How much a note matters. -/
inductive Level
  | debug
  | info
  | error
  deriving Repr, DecidableEq

/-- The name of a level. -/
def Level.name : Level → String
  | debug => "DEBUG"
  | info => "INFO"
  | error => "ERROR"

/-- A note. -/
inductive Note
  /-- Several elements are marked as the landmark. -/
  | ambiguous (landmark : Landmark) (count : Nat)
  /-- The main content was inferred. -/
  | inferredMain (label : String)
  /-- The navigation was inferred from its links. -/
  | inferredNavigation (label : String) (links : Nat)
  /-- An audit has ended. -/
  | audited (main navigation : Option String) (findings : Nat)
  /-- A file cannot be read. -/
  | unreadable (path reason : String)
  deriving Repr, DecidableEq

namespace Note

/-- How much the note matters. -/
def level : Note → Level
  | ambiguous .. | inferredMain _ | inferredNavigation .. => .debug
  | audited .. => .info
  | unreadable .. => .error

/-- The part of the program that notes it. -/
def source : Note → String
  | ambiguous .. | inferredMain _ | inferredNavigation .. =>
    "landmark_lint.analyzers.landmark_detector"
  | audited .. => "landmark_lint.services.landmark_audit_service"
  | unreadable .. => "audit_landmarks"

/-- The wording of a note. -/
def message : Note → String
  | ambiguous .main n => "Ambiguous main content: " ++ toString n ++ " candidates"
  | ambiguous .navigation n => "Ambiguous navigation: " ++ toString n ++ " candidates"
  | inferredMain label => "Inferred main content: " ++ label
  | inferredNavigation label n =>
    "Inferred navigation: " ++ label ++ " (" ++ toString n ++ " links)"
  | audited main navigation n =>
    "Landmark audit: main=" ++ main.getD "None" ++ ", nav=" ++ navigation.getD "None" ++ ", " ++
      toString n ++ " findings"
  | unreadable path reason => "Cannot read " ++ path ++ ": " ++ reason

/-- The note on a line of its own. -/
def line (n : Note) : String := n.level.name ++ ":" ++ n.source ++ ":" ++ n.message ++ "\n"

end Note

end PageLandmarks

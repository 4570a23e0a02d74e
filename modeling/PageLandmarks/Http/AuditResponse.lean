import PageLandmarks.Coercion
import PageLandmarks.Report

/-!
# PageLandmarks.Http.AuditResponse

**The body of the answer to an audit request.** It has a form of its own, with fields
that are taken one by one from the JSON form of a report, by the rules of `Coercion`,
and written out again. Every report fits this form, so a report always has a body
(`AuditResponse.ofReport`).
-/

namespace PageLandmarks.Http

/-! ### The form -/

/-- A landmark in an answer. -/
structure LandmarkResponse where
  /-- The name of its element. -/
  tag : String
  /-- The label of its element. -/
  label : String
  /-- The line of its start tag. -/
  line : Option Int := none
  /-- It is marked as the landmark. -/
  explicit : Bool
  deriving Repr, DecidableEq

/-- A problem in an answer. -/
structure FindingResponse where
  /-- The name of its kind. -/
  kind : String
  /-- The number of its severity. -/
  severity : Int
  /-- Its wording. -/
  message : String
  /-- The label of the element that it is about. -/
  element : Option String := none
  /-- The line of that element. -/
  line : Option Int := none
  deriving Repr, DecidableEq

/-- The body of an answer. -/
structure AuditResponse where
  /-- The main content. -/
  main : Option LandmarkResponse := none
  /-- The navigation. -/
  navigation : Option LandmarkResponse := none
  /-- Both were found and the navigation comes first. -/
  navBeforeMain : Bool
  /-- The place of the main content is acceptable. -/
  mainFirst : Bool
  /-- The problems reported. -/
  findings : List FindingResponse
  /-- There were more problems than could be reported. -/
  truncated : Bool := false
  deriving Repr, DecidableEq

/-! ### Taking values -/

/-- The value of a field that has to be there. -/
def required? {α : Type} (coerce : Json → Except FieldFault α) (name : String) (v : Json) :
    Option α :=
  (v.field? name).bind fun w => (coerce w).toOption

/-- The value of a field that can be absent or `null`. -/
def optional? {α : Type} (coerce : Json → Except FieldFault α) (name : String) (v : Json) :
    Option (Option α) :=
  (Coercion.optional coerce (v.field? name)).toOption

/-- A landmark, if the value has its form. -/
def LandmarkResponse.ofJson? (v : Json) : Option LandmarkResponse := do
  let tag ← required? Coercion.string "tag" v
  let label ← required? Coercion.string "label" v
  let line ← optional? Coercion.int "line" v
  let explicit ← required? Coercion.bool "explicit" v
  return ⟨tag, label, line, explicit⟩

/-- A landmark that can be absent or `null`. -/
def LandmarkResponse.ofField? : Option Json → Option (Option LandmarkResponse)
  | none | some .null => some none
  | some v => (ofJson? v).map some

/-- A problem, if the value has its form. -/
def FindingResponse.ofJson? (v : Json) : Option FindingResponse := do
  let kind ← required? Coercion.string "type" v
  let severity ← required? Coercion.int "severity" v
  let message ← required? Coercion.string "message" v
  let element ← optional? Coercion.string "element" v
  let line ← optional? Coercion.int "line" v
  return ⟨kind, severity, message, element, line⟩

/-- The problems in a list, if all of them have their form. -/
def FindingResponse.ofItems? : List Json → Option (List FindingResponse)
  | [] => some []
  | v :: vs => do
    let finding ← ofJson? v
    let findings ← ofItems? vs
    return finding :: findings

/-- The body of an answer, if the value has its form. -/
def AuditResponse.ofJson? (v : Json) : Option AuditResponse := do
  let main ← LandmarkResponse.ofField? (v.field? "main")
  let navigation ← LandmarkResponse.ofField? (v.field? "navigation")
  let navBeforeMain ← required? Coercion.bool "nav_before_main" v
  let mainFirst ← required? Coercion.bool "main_first" v
  let findings ← match v.field? "findings" with
    | some (.array items) => FindingResponse.ofItems? items
    | _ => none
  let truncated ← match v.field? "truncated" with
    | some w => (Coercion.bool w).toOption
    | none => some false
  return ⟨main, navigation, navBeforeMain, mainFirst, findings, truncated⟩

/-! ### Writing -/

/-- A landmark as JSON. -/
def LandmarkResponse.toJson (l : LandmarkResponse) : Json :=
  .object [("tag", .string l.tag), ("label", .string l.label), ("line", .ofInt? l.line),
    ("explicit", .bool l.explicit)]

/-- A landmark that may be missing as JSON. -/
def LandmarkResponse.toJson? : Option LandmarkResponse → Json
  | some l => l.toJson
  | none => .null

/-- A problem as JSON. -/
def FindingResponse.toJson (f : FindingResponse) : Json :=
  .object [("type", .string f.kind), ("severity", .int f.severity),
    ("message", .string f.message), ("element", .ofString? f.element), ("line", .ofInt? f.line)]

/-- The body of an answer as JSON. -/
def AuditResponse.toJson (a : AuditResponse) : Json :=
  .object [("main", LandmarkResponse.toJson? a.main),
    ("navigation", LandmarkResponse.toJson? a.navigation),
    ("nav_before_main", .bool a.navBeforeMain), ("main_first", .bool a.mainFirst),
    ("findings", .array (a.findings.map FindingResponse.toJson)), ("truncated", .bool a.truncated)]

/-! ### Reports fit -/

/-- A landmark of a report has the form of one in an answer. -/
theorem LandmarkResponse.ofJson?_toJson (i : LandmarkInfo) :
    ofJson? i.toJson = some ⟨i.tag, i.label, i.line, i.explicit⟩ := by
  obtain ⟨tag, label, line, explicit⟩ := i
  cases line <;> rfl

theorem LandmarkResponse.ofField?_toJson (i : Option LandmarkInfo) :
    ofField? (some (LandmarkInfo.toJson? i)) =
      some (i.map fun i => ⟨i.tag, i.label, i.line, i.explicit⟩) := by
  cases i with
  | none => rfl
  | some i => exact congrArg (Option.map some) (ofJson?_toJson i)

/-- A problem of a report has the form of one in an answer. -/
theorem FindingResponse.ofJson?_toJson (f : Finding) :
    ofJson? f.toJson = some ⟨f.kind.name, f.severity.level, f.message, f.element, f.line⟩ := by
  obtain ⟨kind, severity, message, element, line⟩ := f
  cases element <;> cases line <;> rfl

theorem FindingResponse.ofItems?_toJson (fs : List Finding) :
    ofItems? (fs.map Finding.toJson) =
      some (fs.map fun f => ⟨f.kind.name, f.severity.level, f.message, f.element, f.line⟩) := by
  induction fs with
  | nil => rfl
  | cons f fs ih =>
      rw [List.map_cons, ofItems?, ofJson?_toJson, ih]
      rfl

/-- A report has the form of an answer, and nothing of it is lost or changed. -/
theorem AuditResponse.ofJson?_toJson (r : Report) :
    ∃ a, ofJson? r.toJson = some a ∧ a.toJson = r.toJson := by
  have hmain : r.toJson.field? "main" = some (LandmarkInfo.toJson? r.main) := rfl
  have hnavigation : r.toJson.field? "navigation" = some (LandmarkInfo.toJson? r.navigation) :=
    rfl
  have hfindings : r.toJson.field? "findings" = some (.array (r.findings.map Finding.toJson)) :=
    rfl
  rw [ofJson?, hmain, hnavigation, hfindings, LandmarkResponse.ofField?_toJson,
    LandmarkResponse.ofField?_toJson]
  dsimp only
  rw [FindingResponse.ofItems?_toJson]
  refine ⟨_, rfl, ?_⟩
  have hlandmark : ∀ i : Option LandmarkInfo, LandmarkResponse.toJson?
      (i.map fun i => ⟨i.tag, i.label, i.line, i.explicit⟩) = LandmarkInfo.toJson? i := by
    rintro (_ | i) <;> rfl
  rw [toJson, hlandmark, hlandmark, List.map_map]
  rfl

/-- The body of the answer that hands out a report. -/
def AuditResponse.ofReport (r : Report) : AuditResponse :=
  (ofJson? r.toJson).get (Option.isSome_iff_exists.mpr
    ((ofJson?_toJson r).imp fun _ h => h.1))

/-- **An answer hands out the report as it is.** -/
theorem AuditResponse.toJson_ofReport (r : Report) : (ofReport r).toJson = r.toJson := by
  obtain ⟨a, htaken, hjson⟩ := ofJson?_toJson r
  simp only [ofReport, htaken, Option.get_some, hjson]

end PageLandmarks.Http

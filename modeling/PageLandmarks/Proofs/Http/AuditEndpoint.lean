import PageLandmarks.Http
import PageLandmarks.Proofs.AuditOutcome
import PageLandmarks.Proofs.Json.Leaves

/-!
# PageLandmarks.Proofs.Http.AuditEndpoint

**The endpoint hands out what the audit says.** Which of the three answers a body gets is
told by the body and the audit alone (`Faithful`): it is refused if one of its fields is
at fault, with one error for each such field; otherwise the answer is that the audit
failed, and why, or the report as it is. The audit follows what is in force, but for the
number of links that the service was set up with (`respond_assign_navMinLinks`).

That answer is sent unless a string in it is no text (`respond_audit`). A report has texts
only, but the errors about a body show parts of the body, and a body can hold half of a
surrogate pair. So there are bodies that should be refused and are not answered at all
(`respond_audit_half_pair`).
-/

namespace PageLandmarks.Http

/-! ### What a body asks for -/

/-- The fields of an audit request. -/
inductive AuditField
  | html
  | limit
  | exclude
  deriving Repr, DecidableEq

namespace AuditField

/-- The name of a field. -/
def name : AuditField → String
  | html => "html"
  | limit => "max_number_of_problems"
  | exclude => "semantic_exclude"

/-- All fields, in the order of their declaration. -/
def all : List AuditField := [html, limit, exclude]

/-- The value is left out, or `null`, or passes the test. -/
def omittedOr (test : Json → Bool) : Option Json → Bool
  | none | some .null => true
  | some v => test v

/-- What the body has for the field can be taken: a text of at least one character for
the page, nothing or a number from zero on for the limit, nothing or a truth value for
the exclusion. -/
def fits (body : Json) : AuditField → Bool
  | html =>
    match body.field? "html" with
    | some (.string (.text s)) => s != ""
    | _ => false
  | limit =>
    omittedOr (fun v => (Coercion.int v).toOption.any fun n => decide (0 ≤ n))
      (body.field? "max_number_of_problems")
  | exclude =>
    omittedOr (fun v => (Coercion.bool v).toOption.isSome) (body.field? "semantic_exclude")

end AuditField

/-- The value is an object. -/
def isObject : Json → Bool
  | .object _ => true
  | _ => false

/-- The body is an object with fields that can be taken. -/
def fits (body : Json) : Bool := isObject body && AuditField.all.all (AuditField.fits body)

/-- Where the faults of a body are: in its fields, in the order of their declaration, or
in the body itself if it is no object. -/
def faultyPlaces (body : Json) : List (List Json) :=
  if isObject body then
    (AuditField.all.filter fun f => !f.fits body).map fun f =>
      [.string "body", .string f.name]
  else [[.string "body"]]

/-- The page that a body asks about. -/
def askedHtml (body : Json) : String := ((body.field? "html").bind Json.text?).getD ""

/-- The limit that a body asks for. -/
def askedLimit (body : Json) : Option Int :=
  (body.field? "max_number_of_problems").bind fun v => (Coercion.int v).toOption

/-- The exclusion that a body asks for. -/
def askedExclude (body : Json) : Option Bool :=
  (body.field? "semantic_exclude").bind fun v => (Coercion.bool v).toOption

/-- What the audit that a body asks for comes to. -/
def audited (a : Auditor) (body : Json) : Except AuditError Report :=
  (a.audit (askedHtml body) ((askedLimit body).map .atMost) (askedExclude body)).map Prod.fst

/-- A response that is what the body calls for. -/
structure Faithful (a : Auditor) (body : Json) (r : Response) : Prop where
  /-- The status is 422 exactly if the body does not fit. -/
  refused_iff : r.status = 422 ↔ fits body = false
  /-- There is then one error for each field at fault, in the order of declaration. -/
  errors : fits body = false → ∃ errors : List FieldError,
    errors.map FieldError.location = faultyPlaces body ∧
      r = .detail 422 (.array (errors.map FieldError.toDetailedJson))
  /-- The status is 500 exactly if the body fits and the audit fails. -/
  failed_iff : r.status = 500 ↔ fits body = true ∧ ∃ e, audited a body = .error e
  /-- The detail then says why. -/
  reason : fits body = true → ∀ e, audited a body = .error e →
    r = .detail 500 (.string ("Error auditing landmarks: " ++ e.message))
  /-- The status is 200 exactly if the body fits and the audit ends in a report. -/
  reported_iff : r.status = 200 ↔ fits body = true ∧ ∃ report, audited a body = .ok report
  /-- The body of the response is then that report, with no more problems than asked for. -/
  report : fits body = true → ∀ report, audited a body = .ok report →
    r = ⟨200, .json report.toJson⟩ ∧
      ∀ n, askedLimit body = some n → (report.findings.length : Int) ≤ n

/-! ### Taking the fields -/

/-- A field is taken for this value if it fits, and is at fault otherwise. -/
def Taken {α : Type} (ok : Bool) (value : α) (r : Except FieldFault α) : Prop :=
  (ok = true ∧ r = .ok value) ∨ (ok = false ∧ ∃ fault, r = .error fault)

theorem html_taken (body : Json) :
    Taken (AuditField.fits body .html) (askedHtml body) (htmlField (body.field? "html")) := by
  unfold Taken AuditField.fits askedHtml
  cases body.field? "html" with
  | none => exact .inr ⟨rfl, _, rfl⟩
  | some v =>
      match v with
      | .string (.text s) =>
          by_cases hs : s = ""
          · subst hs
            exact .inr ⟨rfl, _, rfl⟩
          · refine .inl ⟨by simpa using hs, ?_⟩
            simp [htmlField, Coercion.nonEmptyString, Coercion.string, hs, Json.text?,
              JsonString.text?, bind, Except.bind, pure, Except.pure]
      | .string (.broken _) | .null | .bool _ | .int _ | .real _ | .nonFinite _ | .array _
      | .object _ => exact .inr ⟨rfl, _, rfl⟩

/-- A field that can be left out is taken if it is, or if its value is. -/
theorem optional_taken {α : Type} {coerce : Json → Except FieldFault α} {test : Json → Bool}
    {value : Json → Option α} (hnull : value .null = none)
    (hvalue : ∀ v, (test v = true ∧ ∃ x, value v = some x ∧ coerce v = .ok x) ∨
      (test v = false ∧ ∃ fault, coerce v = .error fault)) (given : Option Json) :
    Taken (AuditField.omittedOr test given) (given.bind value)
      (Coercion.optional coerce given) := by
  unfold Coercion.optional
  split
  · exact .inl ⟨rfl, rfl⟩
  · exact .inl ⟨rfl, by rw [Option.bind_some, hnull]⟩
  · rename_i v hv
    have homitted : AuditField.omittedOr test (some v) = test v := by
      unfold AuditField.omittedOr
      split <;> simp_all
    rw [homitted, Option.bind_some]
    rcases hvalue v with ⟨hok, x, hx, hcoerce⟩ | ⟨hok, fault, hfault⟩
    · exact .inl ⟨hok, by rw [hcoerce, hx]; rfl⟩
    · exact .inr ⟨hok, fault, by rw [hfault]; rfl⟩

theorem limit_taken (body : Json) :
    Taken (AuditField.fits body .limit) (askedLimit body)
      (Coercion.optional (Coercion.intFrom 0) (body.field? "max_number_of_problems")) := by
  refine optional_taken rfl (fun v => ?_) _
  rw [Coercion.intFrom]
  cases Coercion.int v with
  | error fault => exact .inr ⟨rfl, fault, rfl⟩
  | ok n =>
      by_cases hn : n < 0
      · refine .inr ⟨?_, .below 0, ?_⟩
        · simpa [Except.toOption] using hn
        · simp [bind, Except.bind, hn, throw, throwThe, MonadExceptOf.throw]
      · refine .inl ⟨?_, n, rfl, ?_⟩
        · simpa [Except.toOption] using hn
        · simp [bind, Except.bind, hn, pure, Except.pure]

theorem exclude_taken (body : Json) :
    Taken (AuditField.fits body .exclude) (askedExclude body)
      (Coercion.optional Coercion.bool (body.field? "semantic_exclude")) := by
  refine optional_taken rfl (fun v => ?_) _
  cases Coercion.bool v with
  | error fault => exact .inr ⟨rfl, fault, rfl⟩
  | ok b => exact .inl ⟨rfl, b, rfl, rfl⟩

theorem fits_object (fields : List (JsonString × Json)) :
    fits (.object fields) = (AuditField.fits (.object fields) .html &&
      (AuditField.fits (.object fields) .limit && AuditField.fits (.object fields) .exclude)) := by
  simp [fits, isObject, AuditField.all]

/-- A body that fits is taken as what it asks for. -/
theorem ofJson_of_fits {body : Json} (h : fits body = true) :
    AuditRequest.ofJson body = .ok ⟨askedHtml body, askedLimit body, askedExclude body⟩ := by
  match body with
  | .object fields =>
      rw [fits_object, Bool.and_eq_true, Bool.and_eq_true] at h
      obtain ⟨hhtml, hlimit, hexclude⟩ := h
      have htaken := html_taken (.object fields)
      have ltaken := limit_taken (.object fields)
      have etaken := exclude_taken (.object fields)
      rw [Taken, hhtml] at htaken
      rw [Taken, hlimit] at ltaken
      rw [Taken, hexclude] at etaken
      simp only [true_and, Bool.true_eq_false, false_and, or_false] at htaken ltaken etaken
      rw [AuditRequest.ofJson, htaken, ltaken, etaken]

theorem Taken.ok_eq_true {α : Type} {ok : Bool} {value x : α} (h : Taken ok value (.ok x)) :
    ok = true := by
  rcases h with ⟨hok, -⟩ | ⟨-, fault, hfault⟩
  · exact hok
  · cases hfault

/-- The field is listed with the value that is shown for it exactly if it does not
fit. -/
theorem Taken.fieldErrors {α : Type} {ok : Bool} {value : α} {r : Except FieldFault α}
    (h : Taken ok value r) (name : String) (shown : Json) :
    (fieldErrors name shown r).map FieldError.location =
        (if ok then [] else [[.string "body", .string name]]) ∧
      ∀ e ∈ fieldErrors name shown r, e.input = shown := by
  rcases h with ⟨rfl, rfl⟩ | ⟨rfl, fault, rfl⟩
  · exact ⟨rfl, by simp [Http.fieldErrors]⟩
  · exact ⟨rfl, by simp [Http.fieldErrors]⟩

/-- The value that is shown for a field. -/
def shownFor (body : Json) (name : String) : Json := (body.field? name).getD body

/-- The errors about the fields of an object. -/
def objectErrors (body : Json) : List FieldError :=
  fieldErrors "html" (shownFor body "html") (htmlField (body.field? "html")) ++
    fieldErrors "max_number_of_problems" (shownFor body "max_number_of_problems")
      (Coercion.optional (Coercion.intFrom 0) (body.field? "max_number_of_problems")) ++
    fieldErrors "semantic_exclude" (shownFor body "semantic_exclude")
      (Coercion.optional Coercion.bool (body.field? "semantic_exclude"))

theorem objectErrors_location (fields : List (JsonString × Json)) :
    (objectErrors (.object fields)).map FieldError.location = faultyPlaces (.object fields) := by
  have hhtml := (html_taken (.object fields)).fieldErrors
  have hlimit := (limit_taken (.object fields)).fieldErrors
  have hexclude := (exclude_taken (.object fields)).fieldErrors
  rw [objectErrors, List.map_append, List.map_append, (hhtml _ _).1, (hlimit _ _).1,
    (hexclude _ _).1, faultyPlaces, isObject, if_pos rfl]
  simp only [AuditField.all, List.filter_cons, List.filter_nil]
  cases AuditField.fits (.object fields) .html <;>
    cases AuditField.fits (.object fields) .limit <;>
    cases AuditField.fits (.object fields) .exclude <;> rfl

theorem objectErrors_input {body : Json} {e : FieldError} (he : e ∈ objectErrors body) :
    ∃ name, e.input = shownFor body name := by
  rw [objectErrors, List.mem_append, List.mem_append] at he
  rcases he with (he | he) | he
  · exact ⟨_, ((html_taken body).fieldErrors _ _).2 e he⟩
  · exact ⟨_, ((limit_taken body).fieldErrors _ _).2 e he⟩
  · exact ⟨_, ((exclude_taken body).fieldErrors _ _).2 e he⟩

theorem ofJson_object_of_not_fits {fields : List (JsonString × Json)}
    (h : fits (.object fields) = false) :
    AuditRequest.ofJson (.object fields) = .error (objectErrors (.object fields)) := by
  have hhtml := html_taken (.object fields)
  have hlimit := limit_taken (.object fields)
  have hexclude := exclude_taken (.object fields)
  rw [AuditRequest.ofJson]
  split
  · -- all fields would have been taken
    rename_i h1 h2 h3
    rw [h1] at hhtml
    rw [h2] at hlimit
    rw [h3] at hexclude
    rw [fits_object, hhtml.ok_eq_true, hlimit.ok_eq_true, hexclude.ok_eq_true] at h
    cases h
  · rfl

/-- A body that does not fit is refused with one error for each fault, which shows what
the field at fault has, or the whole body. -/
theorem ofJson_of_not_fits {body : Json} (h : fits body = false) :
    ∃ errors, AuditRequest.ofJson body = .error errors ∧
      errors.map FieldError.location = faultyPlaces body ∧
      ∀ e ∈ errors, ∃ name, e.input = shownFor body name := by
  match body with
  | .object fields =>
      exact ⟨_, ofJson_object_of_not_fits h, objectErrors_location fields,
        fun _ he => objectErrors_input he⟩
  | .null | .bool _ | .int _ | .real _ | .nonFinite _ | .string _ | .array _ =>
      refine ⟨_, rfl, rfl, fun e he => ⟨"html", ?_⟩⟩
      rw [List.mem_singleton.mp he]
      rfl

/-! ### The three answers -/

theorem exists_audit_of_audited {a : Auditor} {body : Json} {report : Report}
    (h : audited a body = .ok report) :
    ∃ notes, a.audit (askedHtml body) ((askedLimit body).map .atMost) (askedExclude body) =
      .ok (report, notes) := by
  rw [audited] at h
  cases haudit : a.audit (askedHtml body) ((askedLimit body).map .atMost) (askedExclude body) with
  | error e => rw [haudit] at h; cases h
  | ok r =>
      rw [haudit] at h
      obtain rfl := Except.ok.inj h
      exact ⟨r.2, rfl⟩

theorem audited_eq_error {a : Auditor} {body : Json} {e : AuditError} :
    audited a body = .error e ↔
      a.audit (askedHtml body) ((askedLimit body).map .atMost) (askedExclude body) = .error e := by
  rw [audited]
  cases a.audit (askedHtml body) ((askedLimit body).map .atMost) (askedExclude body) <;>
    simp [Except.map]

theorem auditJson_of_error {a : Auditor} {body : Json} {e : AuditError}
    (hfits : fits body = true) (haudit : audited a body = .error e) :
    auditJson a body = .detail 500 (.string ("Error auditing landmarks: " ++ e.message)) := by
  rw [auditJson, ofJson_of_fits hfits]
  dsimp only
  rw [audited_eq_error.mp haudit]

theorem auditJson_of_ok {a : Auditor} {body : Json} {report : Report}
    (hfits : fits body = true) (haudit : audited a body = .ok report) :
    auditJson a body = ⟨200, .json report.toJson⟩ := by
  obtain ⟨notes, haudit⟩ := exists_audit_of_audited haudit
  rw [auditJson, ofJson_of_fits hfits]
  dsimp only
  rw [haudit]
  dsimp only
  rw [AuditResponse.toJson_ofReport]

theorem auditJson_of_not_fits (a : Auditor) {body : Json} (hfits : fits body = false) :
    ∃ errors : List FieldError, errors.map FieldError.location = faultyPlaces body ∧
      (∀ e ∈ errors, ∃ name, e.input = shownFor body name) ∧
      auditJson a body = .detail 422 (.array (errors.map FieldError.toDetailedJson)) := by
  obtain ⟨errors, herrors, hlocation, hinput⟩ := ofJson_of_not_fits hfits
  exact ⟨errors, hlocation, hinput, by rw [auditJson, herrors]⟩

theorem askedLimit_nonneg {body : Json} {n : Int} (hfits : fits body = true)
    (hn : askedLimit body = some n) : 0 ≤ n := by
  have hlimit : AuditField.fits body .limit = true := by
    rw [fits, Bool.and_eq_true, List.all_eq_true] at hfits
    exact hfits.2 .limit (by simp [AuditField.all])
  rw [askedLimit] at hn
  rw [AuditField.fits] at hlimit
  obtain ⟨v, hv, hvn⟩ := Option.bind_eq_some_iff.mp hn
  rw [hv] at hlimit
  unfold AuditField.omittedOr at hlimit
  split at hlimit
  · contradiction
  · -- `null` is no number
    rename_i hnull
    obtain rfl := Option.some.inj hnull
    cases hvn
  · rename_i w _ hw
    obtain rfl := Option.some.inj hw
    simpa [hvn] using hlimit

/-- A report has no more problems than the body asks for. -/
theorem findings_length_le_asked {a : Auditor} {body : Json} {report : Report} {n : Int}
    (hfits : fits body = true) (haudit : audited a body = .ok report)
    (hn : askedLimit body = some n) : (report.findings.length : Int) ≤ n := by
  obtain ⟨notes, haudit⟩ := exists_audit_of_audited haudit
  obtain ⟨p, detector, bound, -, rfl, hbound⟩ := Auditor.exists_report_of_audit haudit
  rw [hn] at hbound
  refine Page.report_findings_length_le p detector (askedLimit_nonneg hfits hn) bound _ ?_
  exact hbound.imp_right fun hbound => (Except.ok.inj hbound).symm

/-- The answer to a body is what the body calls for. -/
theorem auditJson_faithful (a : Auditor) (body : Json) : Faithful a body (auditJson a body) := by
  cases hfits : fits body with
  | false =>
      obtain ⟨errors, hlocation, -, hanswer⟩ := auditJson_of_not_fits a hfits
      rw [hanswer]
      exact {
        refused_iff := by simp [Response.detail, hfits]
        errors := fun _ => ⟨errors, hlocation, rfl⟩
        failed_iff := by simp [Response.detail, hfits]
        reason := by simp [hfits]
        reported_iff := by simp [Response.detail, hfits]
        report := by simp [hfits] }
  | true =>
      cases haudit : audited a body with
      | error e =>
          rw [auditJson_of_error hfits haudit]
          exact {
            refused_iff := by simp [Response.detail, hfits]
            errors := by simp [hfits]
            failed_iff := by simp [Response.detail, hfits, haudit]
            reason := by simp [haudit]
            reported_iff := by simp [Response.detail, haudit]
            report := by simp [haudit] }
      | ok report =>
          rw [auditJson_of_ok hfits haudit]
          exact {
            refused_iff := by simp [hfits]
            errors := by simp [hfits]
            failed_iff := by simp [haudit]
            reason := by simp [haudit]
            reported_iff := by simp [hfits, haudit]
            report := fun _ report' hreport => by
              obtain rfl := Except.ok.inj (haudit.symm.trans hreport)
              exact ⟨rfl, fun n hn => findings_length_le_asked hfits haudit hn⟩ }

/-! ### Sending the answer -/

/-- What the body of a response holds at its leaves. -/
def Response.every (leaf : Json → Bool) (name : JsonString → Bool) (r : Response) : Bool :=
  match r.body with
  | .json v => v.every leaf name
  | .empty => true

/-- All strings in the response are texts. -/
def Response.isText (r : Response) : Bool := r.every Json.leafIsText JsonString.isWritable

theorem detail_every {leaf : Json → Bool} {name : JsonString → Bool}
    (h : Json.Plain leaf name) (status : Nat) (v : Json) :
    (Response.detail status v).every leaf name = v.every leaf name := by
  simp [Response.every, Response.detail, Json.every, Json.everyField, h.name]

/-- The places of faults are plain. -/
theorem faultyPlaces_every {leaf : Json → Bool} {name : JsonString → Bool}
    (h : Json.Plain leaf name) {body : Json} {place : List Json}
    (hplace : place ∈ faultyPlaces body) : Json.everyItem leaf name place = true := by
  unfold faultyPlaces at hplace
  split at hplace
  · obtain ⟨f, -, rfl⟩ := List.mem_map.mp hplace
    simp [Json.everyItem, Json.every, h.string]
  · obtain rfl := List.mem_singleton.mp hplace
    simp [Json.everyItem, Json.every, h.string]

/-- The answer is plain, apart from the parts of a refused body that it shows. -/
theorem auditJson_every {leaf : Json → Bool} {name : JsonString → Bool}
    (h : Json.Plain leaf name) (a : Auditor) {body : Json}
    (hbody : fits body = true ∨ body.every leaf name = true) :
    (auditJson a body).every leaf name = true := by
  cases hfits : fits body with
  | false =>
      have hevery : body.every leaf name = true := by simpa [hfits] using hbody
      obtain ⟨errors, hlocation, hinput, hanswer⟩ := auditJson_of_not_fits a hfits
      rw [hanswer, detail_every h, Json.every, Json.everyItem_iff, List.forall_mem_map]
      intro e he
      refine h.fieldError ?_ ?_
      · exact faultyPlaces_every h (hlocation ▸ List.mem_map_of_mem he)
      · obtain ⟨key, hkey⟩ := hinput e he
        rw [hkey]
        exact Json.every_field?_getD key hevery
  | true =>
      cases haudit : audited a body with
      | error e =>
          rw [auditJson_of_error hfits haudit, detail_every h]
          exact h.string _
      | ok report =>
          rw [auditJson_of_ok hfits haudit]
          exact h.report report

theorem auditJson_isFinite (a : Auditor) {body : Json} (hfinite : body.isFinite = true) :
    (auditJson a body).every Json.leafIsFinite (fun _ => true) = true :=
  auditJson_every Json.plain_finite a (.inr (Json.isFinite_eq_every body ▸ hfinite))

/-- A response with finite numbers is sent if its strings are texts. -/
theorem Response.sent_of_isText {r : Response}
    (hfinite : r.every Json.leafIsFinite (fun _ => true) = true) (htext : r.isText = true) :
    r.sent = .ok r := by
  obtain ⟨status, v | _⟩ := r
  · obtain ⟨line, hline⟩ :=
      sentJson_of_isText ((Json.isFinite_eq_every v).trans hfinite) htext
    simp [Response.sent, hline, Except.map]
  · rfl

/-- A response with finite numbers is not sent if some string in it is no text. -/
theorem Response.sent_of_not_isText {r : Response}
    (hfinite : r.every Json.leafIsFinite (fun _ => true) = true) (htext : r.isText = false) :
    ∃ e, r.sent = .error (.notText e) := by
  obtain ⟨status, v | _⟩ := r
  · obtain ⟨e, he⟩ :=
      sentJson_of_not_isText ((Json.isFinite_eq_every v).trans hfinite) htext
    exact ⟨e, by simp [Response.sent, he, Except.map]⟩
  · cases htext

/-! ### Requests -/

/-- A request for an audit. -/
def auditRequest (content : Content) : Request := ⟨Route.audit.method, Route.audit.path, content⟩

theorem destination_audit :
    Target.destination Route.audit.path = .ok (.service Route.audit.path.toList) := by
  rfl

theorem servedPath_audit :
    (Destination.service Route.audit.path.toList).servedPath = .ok Route.audit.path := by
  rfl

/-- A request for an audit with a body that has a value gets the answer to this value,
if it can be sent. -/
theorem respond_auditRequest (c : Configuration) {content : Content} {sent : Option String}
    {body : Json} (hsent : content.sent = .ok sent) (hbody : decodeBody sent = .ok body) :
    respond c (auditRequest content) = (auditJson (auditorOf c) body).sent := by
  have hmethod : Text.asciiUppercase Route.audit.method = "POST" := by decide
  have hroute : Route.at? Route.audit.path = some .audit := by decide
  have hanswer : answer (auditorOf c) "POST" Route.audit.path sent =
      auditJson (auditorOf c) body := by
    rw [answer, hroute]
    dsimp only
    rw [if_pos (by decide), serve, hbody]
  rw [respond, auditRequest, destination_audit, hsent]
  simp only [Except.mapError, bind, Except.bind, servedPath_audit, hmethod, hanswer]
  cases (auditJson (auditorOf c) body).sent <;> rfl

/-- As long as the number of links is that of the start, the service audits with what is in
force. -/
theorem auditorOf_eq {c : Configuration} (h : c.auditor.threshold = .links c.serviceLinks) :
    auditorOf c = c.auditor := by
  rw [auditorOf, ← h]

/-- **The service keeps the number of links that it was set up with**, whatever is assigned to
the setting later. -/
theorem respond_assign_navMinLinks (c : Configuration) (v : Json) (r : Request) :
    respond (c.assign Settings.Field.navMinLinks.name v) r = respond c r := by
  have hauditor : auditorOf (c.assign Settings.Field.navMinLinks.name v) = auditorOf c := rfl
  rw [respond, respond, hauditor]

/-- With settings in force, an audit fails exactly if there is no reader of the name that
they give, or the reader rejects the page. -/
theorem audited_eq_error_iff (s : Settings) {body : Json} {e : AuditError} :
    audited (auditorOf (.ofSettings s)) body = .error e ↔
      (s.htmlParser ∉ Page.readerNames ∧ e = .page (.unknownReader s.htmlParser)) ∨
      (s.htmlParser ∈ Page.readerNames ∧ ∃ rejection,
        Document.parse (askedHtml body) = .error rejection ∧ e = .page (.rejected rejection)) := by
  have hreader : (auditorOf (.ofSettings s)).reader = .named [s.htmlParser] := by
    rw [auditorOf_eq rfl]
    simp [Configuration.ofSettings, Auditor.ofSettings]
  have hbound : ∃ bound, (((askedLimit body).map Limit.atMost).getD
      (auditorOf (.ofSettings s)).limit).bound = .ok bound := by
    cases askedLimit body <;> exact ⟨_, rfl⟩
  obtain ⟨bound, hbound⟩ := hbound
  rw [audited_eq_error, Auditor.audit_eq_error_iff rfl hbound, hreader]
  simp only [Page.read_named_eq_error_iff, List.any_cons, List.any_nil, Bool.or_false,
    String.intercalate_singleton, List.contains_eq_mem, decide_eq_false_iff_not,
    decide_eq_true_eq]
  constructor
  · rintro ⟨reason, ⟨hname, rfl⟩ | ⟨hname, rejection, hparse, rfl⟩, rfl⟩
    · exact .inl ⟨hname, rfl⟩
    · exact .inr ⟨hname, rejection, hparse, rfl⟩
  · rintro (⟨hname, rfl⟩ | ⟨hname, rejection, hparse, rfl⟩)
    · exact ⟨_, .inl ⟨hname, rfl⟩, rfl⟩
    · exact ⟨_, .inr ⟨hname, rejection, hparse, rfl⟩, rfl⟩

/-- **The audit endpoint.** Whatever value a body with finite numbers stands for, there is
an answer that is faithful to it, and it is sent if all strings in it are texts. Otherwise
nothing is sent: the answer would have refused the body, and shows a string of it that is
no text. With settings in force the audit is what they make it, and it fails only for want of
the reader that they name or because the markup is rejected. -/
theorem respond_audit (c : Configuration) {content : Content} {sent : Option String}
    {body : Json} (hsent : content.sent = .ok sent) (hbody : decodeBody sent = .ok body)
    (hfinite : body.isFinite = true) :
    (∃ answer, Faithful (auditorOf c) body answer ∧
      (answer.isText = true → respond c (auditRequest content) = .ok answer) ∧
      (answer.isText = false → answer.status = 422 ∧ body.isText = false ∧
        ∃ e, respond c (auditRequest content) = .error (.notText e))) ∧
    ∀ s, c = .ofSettings s → auditorOf c = .ofSettings s s.htmlParser ∧
      ∀ e, audited (auditorOf c) body = .error e ↔
        (s.htmlParser ∉ Page.readerNames ∧ e = .page (.unknownReader s.htmlParser)) ∨
        (s.htmlParser ∈ Page.readerNames ∧ ∃ rejection,
          Document.parse (askedHtml body) = .error rejection ∧
            e = .page (.rejected rejection)) := by
  have hfaithful := auditJson_faithful (auditorOf c) body
  have hplain := auditJson_isFinite (auditorOf c) hfinite
  have hrespond := respond_auditRequest c hsent hbody
  refine ⟨⟨auditJson (auditorOf c) body, hfaithful, fun htext => ?_, fun htext => ?_⟩, ?_⟩
  · rw [hrespond, Response.sent_of_isText hplain htext]
  · -- a body that fits, or has texts only, would have had an answer with texts only
    have hneither : ¬(fits body = true ∨ body.isText = true) := by
      intro hbody
      have heq := auditJson_every Json.plain_text (auditorOf c) hbody
      exact Bool.false_ne_true (htext.symm.trans heq)
    obtain ⟨hfits, hbodyText⟩ := not_or.mp hneither
    refine ⟨hfaithful.refused_iff.mpr (by simpa using hfits), by simpa using hbodyText, ?_⟩
    rw [hrespond]
    exact Response.sent_of_not_isText hplain htext
  · rintro s rfl
    exact ⟨auditorOf_eq rfl, fun _ => audited_eq_error_iff s⟩

/-- The text of a body that asks for the landmarks of a page alone. -/
def landmarksOnlyBody : String := "\x7b\"html\":\"<p>\",\"max_number_of_problems\":0\x7d"

/-- The text of a body that has no page, and a note that is half of a surrogate pair. -/
def halfPairBody : String := "\x7b\"note\":\"\\ud800\"\x7d"

/-- A page is reported on. -/
theorem respond_audit_landmarks_only :
    ∃ body answer, decodeBody (some landmarksOnlyBody) = .ok body ∧ body.isFinite = true ∧
      answer.status = 200 ∧
      respond {} (auditRequest (.text landmarksOnlyBody)) = .ok answer := by
  obtain ⟨body, hbody, htest⟩ := exists_ok_of_any (x := decodeBody (some landmarksOnlyBody))
    (q := fun body => body.isFinite && fits body &&
      (audited (auditorOf {}) body).toOption.isSome) (by decide +kernel)
  simp only [Bool.and_eq_true] at htest
  obtain ⟨⟨hfinite, hfits⟩, haudit⟩ := htest
  have hcontent : (Content.text landmarksOnlyBody).sent = .ok (some landmarksOnlyBody) := rfl
  obtain ⟨⟨answer, hfaithful, hsent, hunsent⟩, -⟩ := respond_audit {} hcontent hbody hfinite
  refine ⟨body, answer, hbody, hfinite, ?_, ?_⟩
  · refine hfaithful.reported_iff.mpr ⟨hfits, ?_⟩
    cases hreport : audited (auditorOf {}) body with
    | error e => rw [hreport] at haudit; cases haudit
    | ok report => exact ⟨report, rfl⟩
  · cases htext : answer.isText with
    | true => exact hsent htext
    | false =>
        have hrefused := hfaithful.refused_iff.mp (hunsent htext).1
        rw [hfits] at hrefused
        cases hrefused

/-- **A body that should be refused and gets no answer**: it has no page, and the error
that says so would have to show half of a surrogate pair. -/
theorem respond_audit_half_pair :
    ∃ body e, decodeBody (some halfPairBody) = .ok body ∧ body.isFinite = true ∧
      fits body = false ∧
      respond {} (auditRequest (.text halfPairBody)) = .error (.notText e) := by
  obtain ⟨body, hbody, htest⟩ := exists_ok_of_any (x := decodeBody (some halfPairBody))
    (q := fun body => body.isFinite && !fits body && !(auditJson (auditorOf {}) body).isText)
    (by decide +kernel)
  simp only [Bool.and_eq_true, Bool.not_eq_true'] at htest
  obtain ⟨⟨hfinite, hfits⟩, htext⟩ := htest
  obtain ⟨e, he⟩ :=
    Response.sent_of_not_isText (auditJson_isFinite (auditorOf {}) hfinite) htext
  have hcontent : (Content.text halfPairBody).sent = .ok (some halfPairBody) := rfl
  exact ⟨body, e, hbody, hfinite, hfits, (respond_auditRequest {} hcontent hbody).trans he⟩

end PageLandmarks.Http

import PageLandmarks.Proofs.Http.AuditEndpoint
import PageLandmarks.Proofs.Json.RoundTrip
import PageLandmarks.Proofs.Text.Utf8

/-!
# PageLandmarks.Proofs.Http.PageRequest

**A request for the audit of a page alone** has a body with the page and nothing else. It is
answered with the report of an audit that follows the auditor of the service in everything
(`answered_of_audit`).

The request gets there and back. The one line that it is sent as is taken for UTF-8, because it
begins with ASCII characters, and is read back to the same body (`decodeBody_pageBody`). The
answer is sent, because a report is made of texts.
-/

namespace PageLandmarks.Http

/-- The body that asks for nothing but the audit of a page. -/
def pageBody (html : String) : Json := .object [("html", .string html)]

/-- The service answers a request for the audit of this page alone with this value. -/
structure Answered (c : Configuration) (html : String) (value : Json) : Prop where
  /-- So it answers the request that is made with the body for the page. -/
  made : respond c (auditRequest (.json (pageBody html))) = .ok ⟨200, .json value⟩
  /-- And so it answers any other request with a body that stands for the same. -/
  any : ∀ content sent, content.sent = .ok sent → decodeBody sent = .ok (pageBody html) →
    respond c (auditRequest content) = .ok ⟨200, .json value⟩

/-! ### The request -/

theorem sent_pageBody (html : String) :
    (Content.json (pageBody html)).sent = .ok (some (pageBody html).compact) := by
  have htext : (pageBody html).isText = true := by
    simp [pageBody, Json.isText, Json.every, Json.everyField, Json.plain_text.string,
      Json.plain_text.name]
  have hnone : Text.Utf8.encodeError? (pageBody html).line = none :=
    Text.Utf8.encodeError?_eq_none_iff.mpr ((Json.line_isWritable _).trans htext)
  have hfinite : (pageBody html).isFinite = true := rfl
  have hsent : sentJson (pageBody html) = .ok (pageBody html).compact := by
    rw [sentJson, if_pos hfinite, sentPoints, hnone]
    rfl
  show (sentJson (pageBody html)).map some = _
  rw [hsent]
  rfl

theorem bodyText?_pageBody (html : String) :
    bodyText? (pageBody html).compact = some (pageBody html).compact.toList := by
  have hline : (pageBody html).compact =
      .ofList ('\x7b' :: Json.textField "html".toList html.toList) :=
    Json.compact_textField "html" html
  have hdetect : Text.Encoding.detect (Text.Utf8.octets (pageBody html).compact) = .utf8 := by
    rw [hline, Text.Utf8.octets_eq, String.toList_ofList]
    rfl
  rw [bodyText?]
  simp only [hdetect]
  rw [hline, String.toList_ofList]
  rfl

theorem decodeBody_pageBody (html : String) :
    decodeBody (some (pageBody html).compact) = .ok (pageBody html) := by
  have hsome : (pageBody html).compact ≠ "" := by
    rw [pageBody, Json.compact_textField]
    simp
  rw [decodeBody]
  · rw [bodyText?_pageBody]
    dsimp only
    rw [String.ofList_toList, pageBody, Json.parse_textField]
    rfl
  · simpa using hsome

/-! ### The answer -/

theorem fits_pageBody {html : String} (h : html ≠ "") : fits (pageBody html) = true := by
  have hhtml : AuditField.fits (pageBody html) .html = true := bne_iff_ne.mpr h
  rw [pageBody, fits_object, ← pageBody, hhtml]
  rfl

theorem auditJson_pageBody {a : Auditor} {html : String} {report : Report} {notes : List Note}
    (hhtml : html ≠ "") (haudit : a.audit html none none = .ok (report, notes)) :
    auditJson a (pageBody html) = ⟨200, .json report.toJson⟩ := by
  refine auditJson_of_ok (fits_pageBody hhtml) ?_
  have hasked : audited a (pageBody html) = (a.audit html none none).map Prod.fst := rfl
  rw [hasked, haudit]
  rfl

/-- A page alone is answered with the report of an audit that follows the auditor of the service
in everything. -/
theorem answered_of_audit {c : Configuration} {html : String} {report : Report}
    {notes : List Note} (hhtml : html ≠ "")
    (haudit : (auditorOf c).audit html none none = .ok (report, notes)) :
    Answered c html report.toJson := by
  have hany : ∀ content sent, content.sent = .ok sent → decodeBody sent = .ok (pageBody html) →
      respond c (auditRequest content) = .ok ⟨200, .json report.toJson⟩ := by
    intro content sent hsent hbody
    rw [respond_auditRequest c hsent hbody, auditJson_pageBody hhtml haudit]
    exact Response.sent_of_isText (Json.plain_finite.report report) (Json.plain_text.report report)
  exact ⟨hany _ _ (sent_pageBody html) (decodeBody_pageBody html), hany⟩

end PageLandmarks.Http

import PageLandmarks.Configuration
import PageLandmarks.Http.AuditResponse
import PageLandmarks.Http.Target
import PageLandmarks.Json.Printer
import PageLandmarks.Text.Encoding
import PageLandmarks.Text.Uppercase

/-!
# PageLandmarks.Http

**The audit as a web service.** There are two routes: a health check, and the
audit, which takes a JSON object with the page and hands out the report. A body
that cannot be taken is answered with everything that is wrong with it, a page
that cannot be read with the reason. There is no answer to a request whose target
cannot be taken, nor can a body show a number that is not finite or a string that is
no text.
-/

namespace PageLandmarks.Http

/-! ### Requests and responses -/

/-- The body that a request is made with. -/
inductive Content
  | absent
  | text (s : JsonString)
  | json (v : Json)

/-- A request. -/
structure Request where
  /-- The method, in any case. -/
  method : String
  /-- The target: a path or a full address. -/
  target : String
  /-- The body. -/
  content : Content := .absent

/-- The body of a response. -/
inductive Body
  | json (v : Json)
  | empty

/-- A response. -/
structure Response where
  /-- The status. -/
  status : Nat
  /-- The body. -/
  body : Body

/-- A response with a detail about why there is nothing else. -/
def Response.detail (status : Nat) (detail : Json) : Response :=
  ⟨status, .json (.object [("detail", detail)])⟩

/-- Why there is no response. -/
inductive RequestError
  | target (e : TargetError)
  /-- The body of the request or of the response holds a number that is not
  finite. -/
  | notFinite
  /-- The body of the request or of the response holds a string that is no
  text. -/
  | notText (e : Text.Utf8.EncodeError)
  deriving Repr, DecidableEq

/-- The wording of a request error. -/
def RequestError.message : RequestError → String
  | target e => e.message
  | notFinite => "Out of range float values are not JSON compliant"
  | notText e => e.message

/-- Code points that are sent as a text. -/
def sentPoints (points : List Nat) : Except RequestError String :=
  match Text.Utf8.encodeError? points with
  | some e => .error (.notText e)
  | none => .ok (Json.ofPoints points)

/-- A value that is sent on one line. -/
def sentJson (v : Json) : Except RequestError String :=
  if v.isFinite then sentPoints v.line else .error .notFinite

/-- The body as it is sent. For `null` there is none. -/
def Content.sent : Content → Except RequestError (Option String)
  | absent | json .null => .ok none
  | text s => (sentPoints s.points).map some
  | json v => (sentJson v).map some

/-- A response that can be sent. -/
def Response.sent (r : Response) : Except RequestError Response :=
  match r.body with
  | .json v => (sentJson v).map fun _ => r
  | .empty => .ok r

/-! ### The body of an audit request -/

/-- What an audit request asks for. -/
structure AuditRequest where
  /-- The page. -/
  html : String
  /-- The limit on the problems reported, if there is one of its own. -/
  limit : Option Int
  /-- Whether to report no problems, if that is said. -/
  exclude : Option Bool
  deriving Repr, DecidableEq

/-- The error about a field of the body, if taking it failed. -/
def fieldErrors {α : Type} (name : String) (input : Json) :
    Except FieldFault α → List FieldError
  | .ok _ => []
  | .error fault => [⟨[.string "body", .string name], fault, input⟩]

/-- The page in the body of a request. -/
def htmlField : Option Json → Except FieldFault String
  | none => .error .missing
  | some v => Coercion.nonEmptyString v

/-- What a body asks for, or everything that is wrong with it. The error about a
missing field shows the whole body. A body that stands for `null` is there and is no
object; only a body that is not sent is missing (`decodeBody`). -/
def AuditRequest.ofJson (body : Json) : Except (List FieldError) AuditRequest :=
  match body with
  | .object _ =>
    let shown (name : String) : Json := (body.field? name).getD body
    let html := htmlField (body.field? "html")
    let limit := Coercion.optional (Coercion.intFrom 0) (body.field? "max_number_of_problems")
    let exclude := Coercion.optional Coercion.bool (body.field? "semantic_exclude")
    match html, limit, exclude with
    | .ok html, .ok limit, .ok exclude => .ok ⟨html, limit, exclude⟩
    | _, _, _ =>
      .error (fieldErrors "html" (shown "html") html ++
        fieldErrors "max_number_of_problems" (shown "max_number_of_problems") limit ++
        fieldErrors "semantic_exclude" (shown "semantic_exclude") exclude)
  | _ => .error [⟨[.string "body"], .notObject, body⟩]

/-- Why a body has no value. -/
inductive BodyError
  /-- The body is not there, or is not JSON. -/
  | invalid (e : FieldError)
  /-- The body is in no encoding, or its value is out of bounds. -/
  | unreadable

/-- The text of a body. The mark of a text in UTF-8 is not part of it. -/
def bodyText? (content : String) : Option (List Char) :=
  let bytes := Text.Utf8.octets content
  match Text.Encoding.detect bytes with
  | .utf8 => some (Text.Utf8.withoutMark content.toList)
  | encoding => encoding.decode? bytes

/-- The value that the body of a request stands for. -/
def decodeBody (content : Option String) : Except BodyError Json :=
  match content with
  | none | some "" => .error (.invalid ⟨[.string "body"], .missing, .null⟩)
  | some text =>
    match bodyText? text with
    | none => .error .unreadable
    | some cs =>
      (Json.parse (.ofList cs)).mapError fun
        | .fault fault position =>
          .invalid ⟨[.string "body", .int position], .invalidJson fault, .object []⟩
        | .outOfBounds => .unreadable

/-! ### Routes -/

/-- The routes. -/
inductive Route
  | health
  | audit
  deriving Repr, DecidableEq

/-- The path of a route. -/
def Route.path : Route → String
  | health => "/health"
  | audit => "/landmarks/audit"

/-- The method of a route. -/
def Route.method : Route → String
  | health => "GET"
  | audit => "POST"

/-- The path is that of the route, perhaps with a line feed after it. -/
def Route.isAt (r : Route) (path : String) : Bool := path == r.path || path == r.path ++ "\n"

/-- The route with this path. -/
def Route.at? (path : String) : Option Route := [health, audit].find? fun r => r.isAt path

/-- A path without the slashes at its end. -/
def withoutSlashes (path : String) : String :=
  .ofList (path.toList.reverse.dropWhile (· == '/')).reverse

/-- The auditor of the service: what is in force by now, but for the number of links
that a navigation has, which was settled when the service was set up. -/
def auditorOf (configuration : Configuration) : Auditor :=
  { configuration.auditor with threshold := .links configuration.serviceLinks }

/-- The answer to an audit request with this body. -/
def auditJson (auditor : Auditor) (body : Json) : Response :=
  match AuditRequest.ofJson body with
  | .error errors => .detail 422 (.array (errors.map FieldError.toDetailedJson))
  | .ok request =>
    match auditor.audit request.html (request.limit.map .atMost) request.exclude with
    | .error e => .detail 500 (.string ("Error auditing landmarks: " ++ e.message))
    | .ok (report, _) => ⟨200, .json (AuditResponse.ofReport report).toJson⟩

/-- The answer of a route to a request with its method. -/
def serve (auditor : Auditor) (content : Option String) : Route → Response
  | .health => ⟨200, .json (.object [("status", .string "ok")])⟩
  | .audit =>
    match decodeBody content with
    | .error (.invalid e) => .detail 422 (.array [e.toDetailedJson])
    | .error .unreadable => .detail 400 (.string "There was an error parsing the body")
    | .ok body => auditJson auditor body

/-- The answer to a request in full. The path of a route with slashes at its end
is sent to the route. -/
def answer (auditor : Auditor) (method path : String) (content : Option String) : Response :=
  match Route.at? path with
  | some route =>
    if method = route.method then serve auditor content route
    else .detail 405 (.string "Method Not Allowed")
  | none =>
    match Route.at? (withoutSlashes path) with
    | some _ => ⟨307, .empty⟩
    | none => .detail 404 (.string "Not Found")

/-- The answer to a request. The answer to a `HEAD` request has no body. -/
def respond (configuration : Configuration) (r : Request) : Except RequestError Response := do
  let destination ← (Target.destination r.target).mapError .target
  let content ← r.content.sent
  let path ← destination.servedPath.mapError .target
  let method := Text.asciiUppercase r.method
  let full ← (answer (auditorOf configuration) method path content).sent
  return if method = "HEAD" then { full with body := .empty } else full

end PageLandmarks.Http

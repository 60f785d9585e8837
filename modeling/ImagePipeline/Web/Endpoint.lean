import ImagePipeline.Offered
import ImagePipeline.Text.Percent
import ImagePipeline.Web.Origin
import ImagePipeline.Web.Presentation
import ImagePipeline.Web.Route
import ImagePipeline.Workflow.Access
import ImagePipeline.Workflow.Upload
/-!
The server: from a request to its response.

Every route is a service. The parts of a request are checked first, all of them, and what is wrong is
told in one problem; the application's own failures are problems too, and any other failure is an
unforeseen one.
-/

namespace ImagePipeline.Web

open Workflow

structure Server where
  version : String
  admission : Admission
  origins : OriginPolicy

/-! ## Reading the parts of a request -/

abbrev Part (α : Type) := Except Finding α

def findings {α : Type} : Part α → List Finding
  | .ok _ => []
  | .error finding => [finding]

def complain {α : Type} (part name : String) (complaint : Complaint) : Part α :=
  .error (.ofIssue part ⟨complaint, [.member name]⟩)

def integerPart (request : Request) (name : String) (usual : Int) : Part Int :=
  match lastNamed name request.query with
  | none => .ok usual
  | some text =>
    match Offered.integerOf text with
    | .ok n => .ok n
    | .error complaint => complain "query" name complaint

def statusPart (request : Request) (name : String) : Part (Option Status) :=
  match lastNamed name request.query with
  | none => .ok none
  | some text =>
    match Status.ofName? text with
    | some status => .ok (some status)
    | none => complain "query" name (.notOneOf (Status.all.map (·.name)))

structure FormFile where
  name : String
  mediaType : String
  content : ByteArray

def textKind : String := "<class 'str'>"

def filePart (request : Request) (name : String) : Part FormFile :=
  match lastNamed name request.form with
  | none => complain "body" name .missing
  | some (.text value) =>
    complain "body" name (if value.isEmpty then .missing else .notAFile textKind)
  | some (.file filename mediaType content) => .ok ⟨filename, mediaType, content⟩

def textPart (request : Request) (name usual : String) : Part String :=
  match lastNamed name request.form with
  | none => .ok usual
  | some (.text value) => .ok (if value.isEmpty then usual else value)
  | some (.file ..) => complain "body" name .notText

/-! ## The routes -/

def namelessUpload : String := "unknown"

def takeUpload (admission : Admission) (server : String) (file : FormFile) (kind : String) :
    Service Json := do
  let record ← Upload.accept admission {
    filename := if file.name.isEmpty then namelessUpload else file.name
    mimeType := file.mediaType
    size := file.content.size
    source := .stream file.content none
    kind }
  return present server record

def uploadRoute (server : Server) (request : Request) : Service Response := do
  match filePart request "image", textPart request "processing_type" ProcessingType.resize.name with
  | .ok file, .ok kind =>
    return .json 201 (← takeUpload server.admission request.server file kind)
  | file, kind => return .ofProblem (.ofFindings (findings file ++ findings kind))

def imagesRoute (request : Request) : Service Response := do
  match integerPart request "limit" Page.usualLimit, integerPart request "offset" 0,
      statusPart request "status" with
  | .ok limit, .ok offset, .ok status =>
    let page := Page.normalize limit offset
    let records ← listRecords page.limit page.offset (status.map (·.name))
    return .json 200 (presentPage request.server page records)
  | limit, offset, status =>
    return .ofProblem (.ofFindings (findings limit ++ findings offset ++ findings status))

def fitsHeader (text : String) : Bool := text.toList.all fun c => c.toNat < 256

def disposition (filename : String) : String :=
  "inline; filename*=UTF-8''" ++ Text.Percent.encode filename

def fileRoute (id : String) (uploaded : Bool) : Service Response := do
  let (content, filename) ← file id uploaded
  let mediaType ← (MediaType.ofName filename : Except _ _)
  let sent := MediaType.withCharset (mediaType.getD MediaType.unknown)
  if !fitsHeader sent then throw .unsendableHeader
  return ⟨200, some sent, [("content-disposition", disposition filename)], .file content, true⟩

def answerRoute (server : Server) (request : Request) : Route → Service Response
  | .upload => uploadRoute server request
  | .images => imagesRoute request
  | .info id => return .json 200 (present request.server (← lookUp id))
  | .processed id => fileRoute id false
  | .uploaded id => fileRoute id true
  | .remove id => do
    remove id
    return .detail 200 "Deleted"
  | .health => return .json 200 (.object [("status", .text "ok"), ("version", .text server.version)])

def addressOf (request : Request) (path : String) : String :=
  let query := request.query.map fun (name, value) =>
    Text.Percent.encodeField name ++ "=" ++ Text.Percent.encodeField value
  Text.Percent.encodeAddress (request.server ++ path)
    ++ (if query.isEmpty then "" else "?" ++ "&".intercalate query)

def answerRequest (server : Server) (request : Request) : Service Response :=
  match Route.resolve request.method request.path with
  | .found route => answerRoute server request route
  | .otherMethod allowed =>
    return (Response.detail 405 "Method Not Allowed").withHeaders [("allow", allowed)]
  | .otherPath path => return ⟨307, none, [("location", addressOf request path)], .none, true⟩
  | .notFound => return .detail 404 "Not Found"

/-! ## The server as a whole -/

def settle (server : Server) (request : Request) : Except Failure Response → Response
  | .ok response => server.origins.mark (request.header? "origin") response
  | .error (.app fault detail) =>
    server.origins.mark (request.header? "origin") (.ofProblem (.ofFault fault detail))
  | .error _ => .serverError

/-- Serves a request. A request for the head of a response gets nothing else. -/
def serve (server : Server) (request : Request) : Script working Response := do
  match server.origins.answer? request with
  | some response => return response
  | none =>
    let response := settle server request (← (answerRequest server request).run)
    return if request.method == "HEAD" then response.withoutBody else response

end ImagePipeline.Web

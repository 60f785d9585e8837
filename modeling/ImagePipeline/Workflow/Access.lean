import ImagePipeline.Page
import ImagePipeline.Text.Extension
import ImagePipeline.Workflow.Call

namespace ImagePipeline.Workflow

def lookUp (id : String) : Service Record := Routine.ask (call (.find id))

def fileGone (key : String) : Failure :=
  .app .imageNotFound (some ("저장된 파일이 없습니다: " ++ key))

/-- Opens the file under a key; that there is none is reported as an image that does not exist. -/
def openFile (key : String) (opened : Service ByteArray) : Service ByteArray :=
  opened.recover (Failure.isA .objectNotFound) fun _ => throw (fileGone key)

def resultName (filename kind key : String) : String :=
  Text.withoutExtension filename ++ "_" ++ kind ++ Text.extension key

def uploadedFile (id : String) : Service (ByteArray × String) := do
  let record ← lookUp id
  let content ← openFile record.uploadPath
    (Routine.ask (call (.openUpload record.uploadPath)))
  return (← Routine.ask (call (.readUpload content)), record.uploadFilename)

def processedFile (id : String) : Service (ByteArray × String) := do
  let record ← lookUp id
  if !record.isProcessed then throw (.app .imageNotProcessed none)
  let content ← openFile (record.processedPath.getD "")
    (Routine.ask (call (.openProcessed record.processedPath)))
  match record.processedPath with
  | some key => return (content, resultName record.uploadFilename record.processingType key)
  | none => throw .absentText

def file (id : String) (uploaded : Bool) : Service (ByteArray × String) :=
  if uploaded then uploadedFile id else processedFile id

def remove (id : String) : Service Unit := do
  let record ← lookUp id
  (Routine.ask (call (.deleteAssets (some record.uploadPath) record.processedPath))).recover
    Failure.isApp fun _ => pure ()
  Routine.ask (call (.delete id))

def statusNamed (name : Option String) : Except Failure (Option Status) :=
  match name.filter fun name => !name.isEmpty with
  | none => .ok none
  | some name =>
    match Status.ofName? name with
    | some status => .ok (some status)
    | none => .error (.unknownStatus name)

def listRecords (limit offset : Int) (status : Option String) : Service (List Record) := do
  let page := Page.normalize limit offset
  match ← (statusNamed status : Except _ _) with
  | some status => Routine.ask (call (.listOf status.name page.limit page.offset))
  | none => Routine.ask (call (.list page.limit page.offset))

end ImagePipeline.Workflow

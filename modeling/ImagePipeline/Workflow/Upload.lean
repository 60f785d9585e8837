import ImagePipeline.Text.Extension
import ImagePipeline.Text.LowerCase
import ImagePipeline.Workflow.Call

namespace ImagePipeline.Workflow

/-- What is admitted: uploads up to a size, with one of some extensions in lower case. -/
structure Admission where
  maxSize : Int
  formats : List String
  deriving DecidableEq, Inhabited

namespace Admission

def ofFormats (maxSize : Int) (formats : List String) : Admission :=
  ⟨maxSize, formats.map Text.lowerCase⟩

def extensionOf (filename : String) : String := Text.lowerCase (Text.extension filename)

def tooLarge (maxSize : Int) : Failure :=
  .app .fileTooLarge
    (some ("파일 크기가 최대 " ++ toString (Int.fdiv maxSize (1024 * 1024)) ++ "MB를 초과합니다"))

def unsupported (extension : String) : Failure :=
  .app .invalidFormat
    (some ("지원하지 않는 형식입니다: " ++ if extension.isEmpty then "(없음)" else extension))

def check (admission : Admission) (filename : String) (size : Int) (kind : String) :
    Except Failure (ProcessingType × String) :=
  match ProcessingType.ofName? kind with
  | none => .error (.app .invalidProcessingType none)
  | some kind =>
    let extension := extensionOf filename
    if admission.maxSize < size then .error (tooLarge admission.maxSize)
    else if admission.formats.contains extension then .ok (kind, extension)
    else .error (unsupported extension)

end Admission

structure Upload where
  filename : String
  mimeType : String
  size : Int
  source : Asset.Source
  kind : String

namespace Upload

def usualMimeType : String := "application/octet-stream"

def draft (upload : Upload) (id key : String) (kind : ProcessingType) (now : Instant) : Draft where
  id := some id
  uploadFilename := some upload.filename
  uploadPath := some key
  processedPath := none
  mimeType := some (if upload.mimeType.isEmpty then usualMimeType else upload.mimeType)
  size := some upload.size
  width := none
  height := none
  status := some Status.pending.name
  processingType := some kind.name
  errorMessage := none
  createdAt := some (.ofInstant now)
  updatedAt := some (.ofInstant now)
  processedAt := none

def discard (key : String) : Service Unit :=
  (Routine.ask (call (.deleteAsset (some key)))).recover Failure.isApp fun _ => pure ()

def record (draft : Draft) (key : String) : Service Record :=
  (Routine.ask (call (.create draft))).recover (fun _ => true) fun cause => do
    discard key
    throw cause

def announce (id : String) (kind : ProcessingType) : Service Unit :=
  let publish : Service Unit := do
    let _ ← Routine.ask (call (.publish id kind))
  publish.recover Failure.isApp fun _ => pure ()

/-- Takes in an upload, and gives its record. -/
def accept (admission : Admission) (upload : Upload) : Service Record := do
  let (kind, extension) ← (admission.check upload.filename upload.size upload.kind : Except _ _)
  let id ← Routine.tell (call .newId)
  let key ← Routine.ask (call (.saveUpload (id ++ extension) upload.source))
  let now ← Routine.tell (call .now)
  let record ← record (upload.draft id key kind now) key
  announce id kind
  return record

end Upload

end ImagePipeline.Workflow

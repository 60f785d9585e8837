import ImagePipeline.Image.Encode
import ImagePipeline.Workflow.Access
/-!
Processing an upload.

The record is looked at first and then claimed, so that of several workers only one goes on. Each stage
may fail; a failure that is expected of its stage is written to the record and passed on, any other one
is passed on as it is. Nothing is tried twice here.
-/

namespace ImagePipeline.Workflow

def isTableTrouble (cause : Failure) : Bool := cause.isApp || cause.isDatabase

def isReadTrouble (cause : Failure) : Bool := cause.isApp || cause.isDevice

def recordFailure (record : Record) (message : String) : Service Unit := do
  let now ← Routine.tell (call .now)
  let update : Service Unit := do
    let _ ← Routine.ask (call (.update (record.markFailed message now)))
  update.recover isTableTrouble fun _ => pure ()

/-- Runs one stage. A failure that is expected of it is written to the record, and passed on. -/
def stage {α : Type} (record : Record) (what : String) (expected : Failure → Bool)
    (body : Service α) : Service α :=
  body.recover expected fun cause => do
    recordFailure record (what ++ ": " ++ cause.text)
    throw cause

def readUpload (record : Record) : Service ByteArray := do
  let content ← Routine.ask (call (.openUpload record.uploadPath))
  Routine.ask (call (.readUpload content))

def resultFile (record : Record) : String :=
  record.id ++ "_" ++ record.processingType ++ Encode.outputExtension

def processClaimed (record : Record) : Service Unit := do
  let bytes ← stage record "failed to get original file" isReadTrouble (readUpload record)
  let picture ← stage record "failed to decode original image" Failure.isApp
    (Routine.ask (call (.decode bytes)))
  let result ← stage record "processing failed" (fun _ => true)
    (Routine.ask (call (.process record.processingType picture)))
  let encoded ← stage record "encoding failed" Failure.isApp (Routine.ask (call (.encode result)))
  let key ← stage record "failed to save processed file" Failure.isApp
    (Routine.ask (call (.saveProcessed (resultFile record) encoded)))
  let now ← Routine.tell (call .now)
  let completed := record.markCompleted key result.width result.height now
  let _ ← stage completed "failed to record completion" isTableTrouble
    (Routine.ask (call (.update completed)))

def claimed (id : String) : Service Bool :=
  let claim : Service Bool := do
    Routine.ask (call (.claim id))
    return true
  claim.recover (Failure.isA .alreadyProcessing) fun _ => pure false

def processRecord (record : Record) : Service Unit := do
  if record.canBeProcessed then
    if ← claimed record.id then
      let now ← Routine.tell (call .now)
      processClaimed (record.markProcessing now)

def processImage (id : String) : Service Unit := do
  processRecord (← lookUp id)

def processAfter (id : String) (meanwhile : Service Unit) : Service Unit := do
  let record ← lookUp id
  meanwhile
  processRecord record

/-- Carries out a task. The record says what is to be done; an image that does not exist any more
needs nothing. -/
def handle (id : String) : Service Unit :=
  let body : Service Unit := do
    let _ ← lookUp id
    processImage id
  body.recover (Failure.isA .imageNotFound) fun _ => pure ()

end ImagePipeline.Workflow

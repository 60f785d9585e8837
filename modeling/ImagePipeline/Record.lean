import ImagePipeline.Instant
import ImagePipeline.Failure

namespace ImagePipeline

inductive Status where
  | pending
  | processing
  | completed
  | failed
  deriving DecidableEq, Inhabited

namespace Status

def all : List Status := [pending, processing, completed, failed]

def name : Status → String
  | pending => "pending"
  | processing => "processing"
  | completed => "completed"
  | failed => "failed"

def ofName? (text : String) : Option Status := all.find? fun status => status.name == text

end Status

/-- The columns of a record that processing changes. -/
structure Progress where
  status : String
  processedPath : Option String
  width : Option Int
  height : Option Int
  errorMessage : Option String
  updatedAt : Instant
  processedAt : Option Instant
  deriving DecidableEq, Inhabited

namespace Progress

def isProcessed (p : Progress) : Bool := p.status == Status.completed.name

def isFailed (p : Progress) : Bool := p.status == Status.failed.name

def canBeProcessed (p : Progress) : Bool :=
  p.status == Status.pending.name || p.status == Status.failed.name

def start (p : Progress) (now : Instant) : Progress :=
  { p with status := Status.processing.name, errorMessage := none, updatedAt := now }

def complete (p : Progress) (path : Option String) (width height : Option Int) (now : Instant) :
    Progress :=
  { status := Status.completed.name
    processedPath := path
    width := width
    height := height
    errorMessage := none
    updatedAt := now
    processedAt := some (p.processedAt.getD now) }

def fail (p : Progress) (reason : Option String) (now : Instant) : Progress :=
  { p with
    status := Status.failed.name
    errorMessage := reason
    processedPath := none
    width := none
    height := none
    updatedAt := now }

end Progress

structure Record extends Progress where
  id : String
  uploadFilename : String
  uploadPath : String
  mimeType : String
  size : Int
  processingType : String
  createdAt : Instant
  deriving DecidableEq, Inhabited

namespace Record

def advance (r : Record) (change : Progress → Progress) : Record :=
  { r with toProgress := change r.toProgress }

def markProcessing (r : Record) (now : Instant) : Record := r.advance fun p => p.start now

def markCompleted (r : Record) (path : String) (width height : Int) (now : Instant) : Record :=
  r.advance fun p => p.complete (some path) (some width) (some height) now

def markFailed (r : Record) (reason : String) (now : Instant) : Record :=
  r.advance fun p => p.fail (some reason) now

end Record

/-- Values offered for the columns of a record, before the table has accepted them. -/
structure Draft where
  id : Option String
  uploadFilename : Option String
  uploadPath : Option String
  processedPath : Option String
  mimeType : Option String
  size : Option Int
  width : Option Int
  height : Option Int
  status : Option String
  processingType : Option String
  errorMessage : Option String
  createdAt : Option WrittenTime
  updatedAt : Option WrittenTime
  processedAt : Option WrittenTime
  deriving DecidableEq, Inhabited

namespace Draft

def withUsual (d : Draft) (now : Instant) : Draft :=
  { d with
    status := d.status <|> some Status.pending.name
    createdAt := d.createdAt <|> some (.ofInstant now)
    updatedAt := d.updatedAt <|> some (.ofInstant now) }

def fits (n : Int) : Bool := -0x8000000000000000 ≤ n && n < 0x8000000000000000

def isZoned (t : Option WrittenTime) : Bool :=
  match t with
  | some t => t.offset.isSome
  | none => true

/-- The record that the draft stands for: every time is zoned, every integer fits, and no required
column is empty. The first of these three that does not hold is reported. -/
def complete (d : Draft) : Except Failure Record := do
  if !(isZoned d.createdAt && isZoned d.updatedAt && isZoned d.processedAt) then
    throw .zonelessTime
  if !([d.size, d.width, d.height].all fun n => fits (n.getD 0)) then
    throw .integerOutOfRange
  match d.id, d.uploadFilename, d.uploadPath, d.mimeType, d.size, d.status, d.processingType,
      d.createdAt.bind (·.instant?), d.updatedAt.bind (·.instant?) with
  | some id, some uploadFilename, some uploadPath, some mimeType, some size, some status,
      some processingType, some createdAt, some updatedAt =>
    return {
      id, uploadFilename, uploadPath, mimeType, size, processingType, createdAt, status,
      updatedAt
      processedPath := d.processedPath
      width := d.width
      height := d.height
      errorMessage := d.errorMessage
      processedAt := d.processedAt.bind (·.instant?) }
  | _, _, _, _, _, _, _, _, _ => throw .constraintViolated

end Draft

end ImagePipeline

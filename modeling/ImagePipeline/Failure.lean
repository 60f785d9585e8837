import ImagePipeline.Issue

namespace ImagePipeline

inductive AppFault where
  | general
  | imageNotFound
  | imageNotProcessed
  | alreadyProcessing
  | invalidFormat
  | fileTooLarge
  | invalidProcessingType
  | invalidImageData
  | processingFailed
  | storageFailed
  | objectNotFound
  | queueFailed
  deriving DecidableEq, Inhabited

namespace AppFault

def all : List AppFault :=
  [general, imageNotFound, imageNotProcessed, alreadyProcessing, invalidFormat, fileTooLarge,
    invalidProcessingType, invalidImageData, processingFailed, storageFailed, objectNotFound,
    queueFailed]

/-- A failure followed by what it is a special case of, nearest first. -/
def lineage (fault : AppFault) : List AppFault :=
  match fault with
  | general => [general]
  | objectNotFound => [objectNotFound, storageFailed, general]
  | other => [other, general]

def status : AppFault → Nat
  | general => 500
  | imageNotFound => 404
  | imageNotProcessed => 400
  | alreadyProcessing => 409
  | invalidFormat => 400
  | fileTooLarge => 400
  | invalidProcessingType => 400
  | invalidImageData => 422
  | processingFailed => 500
  | storageFailed => 500
  | objectNotFound => 404
  | queueFailed => 503

def code : AppFault → String
  | general => "INTERNAL_ERROR"
  | imageNotFound => "IMAGE_NOT_FOUND"
  | imageNotProcessed => "IMAGE_NOT_PROCESSED"
  | alreadyProcessing => "ALREADY_PROCESSING"
  | invalidFormat => "INVALID_FORMAT"
  | fileTooLarge => "FILE_TOO_LARGE"
  | invalidProcessingType => "INVALID_PROCESSING_TYPE"
  | invalidImageData => "INVALID_IMAGE_DATA"
  | processingFailed => "PROCESSING_FAILED"
  | storageFailed => "STORAGE_FAILED"
  | objectNotFound => "OBJECT_NOT_FOUND"
  | queueFailed => "QUEUE_FAILED"

def message : AppFault → String
  | general => "서버 내부 오류가 발생했습니다"
  | imageNotFound => "이미지를 찾을 수 없습니다"
  | imageNotProcessed => "아직 처리되지 않은 이미지입니다"
  | alreadyProcessing => "이미 처리 중이거나 처리가 끝난 이미지입니다"
  | invalidFormat => "지원하지 않는 이미지 형식입니다"
  | fileTooLarge => "파일 크기가 허용 한도를 초과했습니다"
  | invalidProcessingType => "processing_type은 resize, thumbnail, watermark 중 하나여야 합니다"
  | invalidImageData => "이미지 데이터를 해석할 수 없습니다"
  | processingFailed => "이미지 처리에 실패했습니다"
  | storageFailed => "파일 저장소 작업에 실패했습니다"
  | objectNotFound => "저장소에서 파일을 찾을 수 없습니다"
  | queueFailed => "작업 큐 전송에 실패했습니다"

end AppFault

/-- The kinds of trouble that a collaborator reports. -/
inductive Foreign where
  | device
  | value
  | runtime
  | lookup
  | memory
  | database
  | queue
  | queueRefused
  | queueUnreachable
  deriving DecidableEq, Inhabited

def Foreign.all : List Foreign :=
  [.device, .value, .runtime, .lookup, .memory, .database, .queue, .queueRefused, .queueUnreachable]

inductive PictureFault where
  | unidentified
  | truncated
  | damaged
  | badNumber
  | tooLarge
  deriving DecidableEq, Inhabited

inductive Failure where
  | app (fault : AppFault) (detail : Option String)
  | foreign (kind : Foreign) (text : String)
  | bucketRefused (code : String)
  | bucketUnreachable
  | invalid (issues : List Issue)
  | unreadableSetting
  | unsupportedStorage (name : String)
  | unknownQueueScheme
  | malformedAddress
  | unreadableDatabaseUrl
  | unknownStatus (name : String)
  | nulInPath
  | nameTooLong
  | wrongFileKind
  | unreadablePicture (fault : PictureFault)
  | oversizedPicture
  | emptyRaster
  | divisionByZero
  | unknownHeader
  | cutHeader
  | absentText
  | unsendableHeader
  | integerOutOfRange
  | constraintViolated
  | zonelessTime
  | negativePause
  | undefinedPause
  | endlessPause
  deriving Inhabited

namespace Failure

def appMessage (fault : AppFault) : Option String → String
  | none => fault.message
  | some detail => if detail.isEmpty then fault.message else detail

/-- A key in quotes: single ones, or double ones when the key holds only single quotes. -/
def quotedKey (key : String) : String :=
  let mark := if key.contains '\'' && !key.contains '"' then '"' else '\''
  let hexDigit (n : Nat) : Char := (Nat.toDigits 16 n).headD '0'
  let piece (c : Char) : String :=
    if c == '\\' then "\\\\"
    else if c == mark then "\\" ++ c.toString
    else if c == '\n' then "\\n"
    else if c == '\r' then "\\r"
    else if c == '\t' then "\\t"
    else if c.toNat < 32 || (127 ≤ c.toNat && c.toNat ≤ 160) || c.toNat == 173 then
      "\\x" ++ (hexDigit (c.toNat / 16)).toString ++ (hexDigit (c.toNat % 16)).toString
    else c.toString
  mark.toString ++ String.join (key.toList.map piece) ++ mark.toString

def text : Failure → String
  | app fault detail => appMessage fault detail
  | foreign .lookup key => quotedKey key
  | foreign _ text => text
  | bucketRefused code => "An error occurred (" ++ code ++ ")"
  | bucketUnreachable => "An unspecified error occurred"
  | invalid issues => toString issues.length ++ " validation errors"
  | unreadableSetting => "error parsing value"
  | unsupportedStorage name => "unsupported STORAGE_TYPE: " ++ name ++ " (use 'local' or 's3')"
  | unknownQueueScheme => "unknown queue scheme"
  | malformedAddress => "malformed address"
  | unreadableDatabaseUrl => "unreadable database address"
  | unknownStatus name => "'" ++ name ++ "' is not a valid ProcessingStatus"
  | nulInPath => "embedded null byte"
  | nameTooLong => "File name too long"
  | wrongFileKind => "Not a directory"
  | unreadablePicture .unidentified => "cannot identify image file"
  | unreadablePicture .truncated => "image file is truncated"
  | unreadablePicture .damaged => "broken data stream when reading image file"
  | unreadablePicture .badNumber => "invalid number in image header"
  | unreadablePicture .tooLarge => "image size exceeds limit"
  | oversizedPicture => "encoder error when writing image file"
  | emptyRaster => "height and width must be > 0"
  | divisionByZero => "division by zero"
  | unknownHeader => "not a TIFF file"
  | cutHeader => "unpack requires a buffer of 4 bytes"
  | absentText => "expected text"
  | unsendableHeader => "header is not sendable"
  | integerOutOfRange => "integer too large"
  | constraintViolated => "constraint failed"
  | zonelessTime => "naive datetime"
  | negativePause => "sleep length must be non-negative"
  | undefinedPause => "Invalid value NaN (not a number)"
  | endlessPause => "timestamp out of range for platform time_t"

def isApp : Failure → Bool
  | app .. => true
  | _ => false

def isA (fault : AppFault) : Failure → Bool
  | app actual _ => actual.lineage.contains fault
  | _ => false

def isDevice : Failure → Bool
  | foreign .device _ => true
  | nameTooLong => true
  | wrongFileKind => true
  | unreadablePicture .unidentified => true
  | unreadablePicture .truncated => true
  | unreadablePicture .damaged => true
  | oversizedPicture => true
  | _ => false

def isValue : Failure → Bool
  | foreign .value _ => true
  | invalid _ => true
  | unreadableSetting => true
  | unsupportedStorage _ => true
  | unknownQueueScheme => true
  | malformedAddress => true
  | unknownStatus _ => true
  | nulInPath => true
  | unreadablePicture .badNumber => true
  | emptyRaster => true
  | unsendableHeader => true
  | negativePause => true
  | undefinedPause => true
  | _ => false

def isDatabase : Failure → Bool
  | foreign .database _ => true
  | constraintViolated => true
  | zonelessTime => true
  | unreadableDatabaseUrl => true
  | _ => false

def isQueue : Failure → Bool
  | foreign .queue _ => true
  | foreign .queueRefused _ => true
  | foreign .queueUnreachable _ => true
  | _ => false

def isBucket : Failure → Bool
  | bucketRefused _ => true
  | bucketUnreachable => true
  | _ => false

/-- A failure that is expected is reported as one of the application's own; any other passes. -/
def reported (fault : AppFault) (what : String) (expected : Failure → Bool) (cause : Failure) :
    Failure :=
  if expected cause then app fault (some (what ++ ": " ++ cause.text)) else cause

theorem isApp_reported {fault : AppFault} {what : String} {expected : Failure → Bool}
    {cause : Failure} : (reported fault what expected cause).isApp = false ↔
      cause.isApp = false ∧ expected cause = false := by
  unfold reported
  cases expected cause with
  | true => exact ⟨nofun, nofun⟩
  | false => exact ⟨fun passes => ⟨passes, rfl⟩, And.left⟩

theorem reported_of_unexpected {fault : AppFault} {what : String} {expected : Failure → Bool}
    {cause : Failure} (unexpected : expected cause = false) :
    reported fault what expected cause = cause := by
  rw [reported, unexpected]
  rfl

end Failure

end ImagePipeline

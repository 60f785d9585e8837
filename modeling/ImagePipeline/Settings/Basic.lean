import ImagePipeline.Failure
import ImagePipeline.Json.Reader
import ImagePipeline.Offered
import ImagePipeline.Settings.EnvironmentFile

namespace ImagePipeline

structure Settings where
  appName : String := "imgpipe"
  appVersion : String := "0.1.0"
  debug : Bool := false
  logLevel : String := "INFO"
  host : String := "0.0.0.0"
  port : Int := 8000
  corsOrigins : String := "*"
  databaseUrl : String := "sqlite:///./imgpipe.db"
  maxUploadSizeMb : Int := 10
  supportedFormats : List String := [".jpg", ".jpeg", ".png", ".gif", ".webp", ".bmp", ".tiff"]
  storageType : String := "local"
  storageLocalPath : String := "./storage"
  storageUploadDir : String := "original"
  storageProcessedDir : String := "processed"
  s3EndpointUrl : Option String := none
  s3AccessKey : Option String := none
  s3SecretKey : Option String := none
  s3Bucket : String := "images"
  s3Region : String := "us-east-1"
  s3MaxAttempts : Int := 3
  redisUrl : String := "redis://localhost:6379/0"
  queueTopic : String := "image-processing"
  queuePartitions : Int := 1
  queueGroup : String := "image-workers"
  queueConsumerName : Option String := none
  queueBlockMs : Int := 5000
  queueClaimIdleMs : Int := 60000
  queueMaxDeliveries : Int := 0
  retryAttempts : Int := 3
  retryDelaySeconds : Float := 2
  retryBackoff : Float := 2
  resizeWidth : Int := 800
  resizeHeight : Int := 600
  thumbnailWidth : Int := 200
  thumbnailHeight : Int := 150
  watermarkImagePath : Option String := none
  watermarkOpacity : Int := 128
  outputQuality : Int := 95
  workerShutdownGraceSeconds : Float := 30
  deriving Inhabited

namespace Settings

structure Reading where
  offered : String → Option Json
  issues : List Issue

def setting {α : Type} (name : String) (usual : α) (check : Json → Except (List Issue) α) :
    StateM Reading α := do
  let reading ← get
  match reading.offered name with
  | none => return usual
  | some value =>
    match check value with
    | .ok value => return value
    | .error issues =>
      set { reading with issues := reading.issues ++ issues.map (Issue.inside name) }
      return usual

def readAll : StateM Reading Settings := do
  let usual : Settings := {}
  let appName ← setting "APP_NAME" usual.appName Offered.text
  let appVersion ← setting "APP_VERSION" usual.appVersion Offered.text
  let debug ← setting "DEBUG" usual.debug Offered.flag
  let logLevel ← setting "LOG_LEVEL" usual.logLevel Offered.text
  let host ← setting "HOST" usual.host Offered.text
  let port ← setting "PORT" usual.port Offered.integer
  let corsOrigins ← setting "CORS_ORIGINS" usual.corsOrigins Offered.text
  let databaseUrl ← setting "DATABASE_URL" usual.databaseUrl Offered.text
  let maxUploadSizeMb ← setting "MAX_UPLOAD_SIZE_MB" usual.maxUploadSizeMb Offered.integer
  let supportedFormats ← setting "SUPPORTED_FORMATS" usual.supportedFormats Offered.texts
  let storageType ← setting "STORAGE_TYPE" usual.storageType Offered.text
  let storageLocalPath ← setting "STORAGE_LOCAL_PATH" usual.storageLocalPath Offered.text
  let storageUploadDir ← setting "STORAGE_ORIGINAL_DIR" usual.storageUploadDir Offered.text
  let storageProcessedDir ← setting "STORAGE_PROCESSED_DIR" usual.storageProcessedDir Offered.text
  let s3EndpointUrl ← setting "S3_ENDPOINT_URL" usual.s3EndpointUrl Offered.optional
  let s3AccessKey ← setting "S3_ACCESS_KEY" usual.s3AccessKey Offered.optional
  let s3SecretKey ← setting "S3_SECRET_KEY" usual.s3SecretKey Offered.optional
  let s3Bucket ← setting "S3_BUCKET" usual.s3Bucket Offered.text
  let s3Region ← setting "S3_REGION" usual.s3Region Offered.text
  let s3MaxAttempts ← setting "S3_MAX_ATTEMPTS" usual.s3MaxAttempts Offered.integer
  let redisUrl ← setting "REDIS_URL" usual.redisUrl Offered.text
  let queueTopic ← setting "QUEUE_TOPIC" usual.queueTopic Offered.text
  let queuePartitions ← setting "QUEUE_PARTITIONS" usual.queuePartitions Offered.integer
  let queueGroup ← setting "QUEUE_GROUP" usual.queueGroup Offered.text
  let queueConsumerName ← setting "QUEUE_CONSUMER_NAME" usual.queueConsumerName Offered.optional
  let queueBlockMs ← setting "QUEUE_BLOCK_MS" usual.queueBlockMs Offered.integer
  let queueClaimIdleMs ← setting "QUEUE_CLAIM_IDLE_MS" usual.queueClaimIdleMs Offered.integer
  let queueMaxDeliveries ← setting "QUEUE_MAX_DELIVERIES" usual.queueMaxDeliveries Offered.integer
  let retryAttempts ← setting "RETRY_ATTEMPTS" usual.retryAttempts Offered.integer
  let retryDelaySeconds ← setting "RETRY_DELAY_SECONDS" usual.retryDelaySeconds Offered.number
  let retryBackoff ← setting "RETRY_BACKOFF" usual.retryBackoff Offered.number
  let resizeWidth ← setting "RESIZE_WIDTH" usual.resizeWidth Offered.integer
  let resizeHeight ← setting "RESIZE_HEIGHT" usual.resizeHeight Offered.integer
  let thumbnailWidth ← setting "THUMBNAIL_WIDTH" usual.thumbnailWidth Offered.integer
  let thumbnailHeight ← setting "THUMBNAIL_HEIGHT" usual.thumbnailHeight Offered.integer
  let watermarkImagePath ←
    setting "WATERMARK_IMAGE_PATH" usual.watermarkImagePath Offered.optional
  let watermarkOpacity ← setting "WATERMARK_OPACITY" usual.watermarkOpacity Offered.integer
  let outputQuality ← setting "OUTPUT_QUALITY" usual.outputQuality Offered.integer
  let workerShutdownGraceSeconds ←
    setting "WORKER_SHUTDOWN_GRACE_SECONDS" usual.workerShutdownGraceSeconds Offered.number
  return {
    appName, appVersion, debug, logLevel, host, port, corsOrigins, databaseUrl, maxUploadSizeMb,
    supportedFormats, storageType, storageLocalPath, storageUploadDir, storageProcessedDir,
    s3EndpointUrl, s3AccessKey, s3SecretKey, s3Bucket, s3Region, s3MaxAttempts, redisUrl,
    queueTopic, queuePartitions, queueGroup, queueConsumerName, queueBlockMs, queueClaimIdleMs,
    queueMaxDeliveries, retryAttempts, retryDelaySeconds, retryBackoff, resizeWidth,
    resizeHeight, thumbnailWidth, thumbnailHeight, watermarkImagePath, watermarkOpacity,
    outputQuality, workerShutdownGraceSeconds }

def ofOffered (offered : String → Option Json) : Except Failure Settings :=
  let (settings, reading) := readAll.run ⟨offered, []⟩
  if reading.issues.isEmpty then .ok settings else .error (.invalid reading.issues)

def named {α : Type} (entries : List (String × α)) (name : String) : Option α :=
  (entries.reverse.find? fun e => Text.lowerCase e.1 == Text.lowerCase name).map (·.2)

def structuredName : String := "SUPPORTED_FORMATS"

/-- A text from the environment or a file as an offered value: JSON where the setting asks for it, in
which null offers nothing. -/
def ofText (name text : String) : Except Failure (Option Json) :=
  if name != structuredName then .ok (some (.text text))
  else
    match Json.parse? text with
    | some .null => .ok none
    | some value => .ok (some value)
    | none => .error .unreadableSetting

def structuredIn (entries : List (String × Option String)) : Except Failure (Option Json) :=
  match (named entries structuredName).join with
  | some text => ofText structuredName text
  | none => .ok none

def load (given : List (String × Json)) (environment : List (String × String))
    (file : List (String × Option String)) : Except Failure Settings := do
  let file := EnvironmentFile.resolve environment file
  let environment := environment.map fun (name, text) => (name, some text)
  let fromEnvironment ← structuredIn environment
  let fromFile ← structuredIn file
  let inPlace (entries : List (String × Option String)) (structured : Option Json)
      (name : String) : Option Json :=
    if name == structuredName then structured else (named entries name).join.map .text
  ofOffered fun name =>
    named given name <|> inPlace environment fromEnvironment name <|> inPlace file fromFile name

inductive Value where
  | text (value : String)
  | optional (value : Option String)
  | flag (value : Bool)
  | integer (value : Int)
  | number (value : Float)
  | texts (value : List String)
  deriving BEq, Inhabited

def entries (s : Settings) : List (String × Value) :=
  [("APP_NAME", .text s.appName),
   ("APP_VERSION", .text s.appVersion),
   ("DEBUG", .flag s.debug),
   ("LOG_LEVEL", .text s.logLevel),
   ("HOST", .text s.host),
   ("PORT", .integer s.port),
   ("CORS_ORIGINS", .text s.corsOrigins),
   ("DATABASE_URL", .text s.databaseUrl),
   ("MAX_UPLOAD_SIZE_MB", .integer s.maxUploadSizeMb),
   ("SUPPORTED_FORMATS", .texts s.supportedFormats),
   ("STORAGE_TYPE", .text s.storageType),
   ("STORAGE_LOCAL_PATH", .text s.storageLocalPath),
   ("STORAGE_ORIGINAL_DIR", .text s.storageUploadDir),
   ("STORAGE_PROCESSED_DIR", .text s.storageProcessedDir),
   ("S3_ENDPOINT_URL", .optional s.s3EndpointUrl),
   ("S3_ACCESS_KEY", .optional s.s3AccessKey),
   ("S3_SECRET_KEY", .optional s.s3SecretKey),
   ("S3_BUCKET", .text s.s3Bucket),
   ("S3_REGION", .text s.s3Region),
   ("S3_MAX_ATTEMPTS", .integer s.s3MaxAttempts),
   ("REDIS_URL", .text s.redisUrl),
   ("QUEUE_TOPIC", .text s.queueTopic),
   ("QUEUE_PARTITIONS", .integer s.queuePartitions),
   ("QUEUE_GROUP", .text s.queueGroup),
   ("QUEUE_CONSUMER_NAME", .optional s.queueConsumerName),
   ("QUEUE_BLOCK_MS", .integer s.queueBlockMs),
   ("QUEUE_CLAIM_IDLE_MS", .integer s.queueClaimIdleMs),
   ("QUEUE_MAX_DELIVERIES", .integer s.queueMaxDeliveries),
   ("RETRY_ATTEMPTS", .integer s.retryAttempts),
   ("RETRY_DELAY_SECONDS", .number s.retryDelaySeconds),
   ("RETRY_BACKOFF", .number s.retryBackoff),
   ("RESIZE_WIDTH", .integer s.resizeWidth),
   ("RESIZE_HEIGHT", .integer s.resizeHeight),
   ("THUMBNAIL_WIDTH", .integer s.thumbnailWidth),
   ("THUMBNAIL_HEIGHT", .integer s.thumbnailHeight),
   ("WATERMARK_IMAGE_PATH", .optional s.watermarkImagePath),
   ("WATERMARK_OPACITY", .integer s.watermarkOpacity),
   ("OUTPUT_QUALITY", .integer s.outputQuality),
   ("WORKER_SHUTDOWN_GRACE_SECONDS", .number s.workerShutdownGraceSeconds)]

def changed (s : Settings) : List (String × Value) :=
  (s.entries.zip (entries {})).filterMap fun (own, usual) =>
    if own.2 == usual.2 then none else some own

def maxUploadBytes (s : Settings) : Int := s.maxUploadSizeMb * 1024 * 1024

end Settings

end ImagePipeline

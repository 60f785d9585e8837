import ImagePipeline.Asset.BucketStore
import ImagePipeline.Asset.LocalStore
import ImagePipeline.Processor
import ImagePipeline.Queue.Address
import ImagePipeline.Queue.Consumer
import ImagePipeline.Settings.Basic
import ImagePipeline.Web.Endpoint

namespace ImagePipeline.Settings

def processingPlan (s : Settings) : ProcessingPlan where
  resizeWidth := s.resizeWidth
  resizeHeight := s.resizeHeight
  thumbnailWidth := s.thumbnailWidth
  thumbnailHeight := s.thumbnailHeight
  watermarkOpacity := s.watermarkOpacity
  outputQuality := s.outputQuality

def retryStrategy (s : Settings) : RetryStrategy Float :=
  ⟨s.retryAttempts, s.retryDelaySeconds, s.retryBackoff⟩

def admission (s : Settings) : Workflow.Admission :=
  .ofFormats s.maxUploadBytes s.supportedFormats

def server (s : Settings) : Web.Server := ⟨s.appVersion, s.admission, .parse s.corsOrigins⟩

def publisher (s : Settings) : Queue.Publisher :=
  ⟨s.queueTopic, s.queuePartitions, s.retryStrategy⟩

def consumer (s : Settings) (processName : String) : Queue.Consumer where
  streams := Queue.streamsOf s.queueTopic s.queuePartitions
  group := s.queueGroup
  name := Asset.orUsual processName (s.queueConsumerName.getD "")
  strategy := s.retryStrategy
  blockMs := s.queueBlockMs
  claimIdleMs := s.queueClaimIdleMs
  maxDeliveries := s.queueMaxDeliveries

def isSchemeChar (c : Char) : Bool := c.isAlphanum || c == '_' || c == '+'

def isDatabaseAddress (url : String) : Bool :=
  match url.toList.span isSchemeChar with
  | (scheme, rest) => !scheme.isEmpty && "://".toList.isPrefixOf rest

def checkDatabase (s : Settings) : Except Failure Unit :=
  if isDatabaseAddress s.databaseUrl then .ok () else .error .unreadableDatabaseUrl

inductive StorageKind where
  | files
  | bucket
  deriving DecidableEq, Inhabited

def storageKind (s : Settings) : Except Failure StorageKind :=
  match Text.lowerCase s.storageType with
  | "local" => .ok .files
  | "s3" => .ok .bucket
  | _ => .error (.unsupportedStorage s.storageType)

def openFiles (s : Settings) (here : Asset.Path) : Asset.OnFiles Asset.LocalStore := do
  if Asset.Path.hasNul s.storageLocalPath then throw .nulInPath
  let base := if s.storageLocalPath.isEmpty then none
    else some (Asset.Path.resolve here s.storageLocalPath)
  Asset.LocalStore.make base s.storageUploadDir s.storageProcessedDir

structure BucketAccess where
  endpoint : Option String
  accessKey : Option String
  secretKey : Option String
  region : String
  maxAttempts : Int
  deriving DecidableEq, Inhabited

namespace BucketAccess

def address (access : BucketAccess) : String :=
  match access.endpoint with
  | some endpoint => endpoint
  | none =>
    if access.region == Asset.BucketStore.usualRegion then "https://s3.amazonaws.com"
    else
      let domain := if access.region.startsWith "cn-" then ".amazonaws.com.cn" else ".amazonaws.com"
      "https://s3." ++ access.region ++ domain

def totalAttempts (access : BucketAccess) : Int := access.maxAttempts + 1

end BucketAccess

def bucketAccess (s : Settings) : BucketAccess :=
  ⟨s.s3EndpointUrl, s.s3AccessKey, s.s3SecretKey, s.s3Region, s.s3MaxAttempts⟩

def openBucket (s : Settings) : Routine Asset.bucketClient Asset.BucketStore := do
  let store ← (Asset.BucketStore.make s.s3Bucket s.storageUploadDir s.storageProcessedDir :
    Except _ _)
  store.ensureBucket (some s.s3Region)
  return store

structure Assembly where
  uploadSpace : String
  processedSpace : String
  queue : Queue.Address
  publisher : Queue.Publisher
  consumer : Queue.Consumer
  admission : Workflow.Admission

def openStore (s : Settings) (here : Asset.Path) : Asset.OnFiles (String × String) := do
  match ← (s.storageKind : Except _ _) with
  | .files =>
    let store ← s.openFiles here
    return (store.uploadSpace, store.processedSpace)
  | .bucket =>
    let store ← (s.openBucket.run.run Asset.Bucket.answer Asset.Bucket.empty).1
    return (store.uploadSpace, store.processedSpace)

/-- Puts the parts together, in a process with the given name. -/
def assemble (s : Settings) (processName : String) (here : Asset.Path) :
    Asset.OnFiles Assembly := do
  (s.checkDatabase : Except _ _)
  let (uploadSpace, processedSpace) ← s.openStore here
  let queue ← (Queue.Address.parse s.redisUrl : Except _ _)
  return {
    uploadSpace, processedSpace, queue
    publisher := s.publisher
    consumer := s.consumer processName
    admission := s.admission }

end ImagePipeline.Settings

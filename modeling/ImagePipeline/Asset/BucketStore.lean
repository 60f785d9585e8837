import ImagePipeline.Asset.Store
import ImagePipeline.Association
import ImagePipeline.Decimal.Shortest
import ImagePipeline.Json.Value

namespace ImagePipeline.Asset

inductive BucketCall where
  | headBucket (bucket : String)
  | createBucket (bucket : String) (region : Option String)
  | putObject (bucket key : String) (body : ByteArray)
  | getObject (bucket key : String)
  | deleteObject (bucket key : String)

abbrev bucketClient : Interface where
  Request := BucketCall
  Reply
    | .headBucket _ => Except Failure Unit
    | .createBucket .. => Except Failure Unit
    | .putObject .. => Except Failure Unit
    | .getObject .. => Except Failure ByteArray
    | .deleteObject .. => Except Failure Unit

inductive RefusalCode where
  | absent
  | null
  | flag (value : Bool)
  | number (numeral : Numeral)
  | text (value : String)
  deriving Inhabited

namespace RefusalCode

def toText : RefusalCode → String
  | absent => ""
  | null => "None"
  | flag value => if value then "True" else "False"
  | number (.integer value) => toString value
  | number numeral => Decimal.Shortest.write numeral.toFloat
  | text value => value

def refusal (code : RefusalCode) : Failure := .bucketRefused code.toText

end RefusalCode

structure BucketStore where
  bucket : String
  uploadSpace : String
  processedSpace : String
  deriving DecidableEq, Inhabited

namespace BucketStore

def call (c : BucketCall) : Script bucketClient (bucketClient.Reply c) :=
  Script.request (I := bucketClient) c

def notFoundCodes : List String := ["NoSuchKey", "NotFound", "404", "NoSuchBucket"]

def saysNotFound : Failure → Bool
  | .bucketRefused code => notFoundCodes.contains code
  | _ => false

def refused : Failure → Bool
  | .bucketRefused _ => true
  | _ => false

def failed (message key : String) : Failure := .app .storageFailed (some (message ++ key))

def make (bucket uploadSpace processedSpace : String) : Except Failure BucketStore :=
  if bucket.isEmpty then .error (.app .storageFailed (some "S3_BUCKET이 비어 있습니다"))
  else .ok ⟨bucket, orUsual "original" uploadSpace, orUsual "processed" processedSpace⟩

def usualRegion : String := "us-east-1"

def mentionedRegion (region : Option String) : Option String :=
  region.filter fun name => !name.isEmpty && name != usualRegion

/-- Makes the bucket if it does not exist; that this fails is put up with. -/
def ensureBucket (store : BucketStore) (region : Option String) : Routine bucketClient Unit := do
  let look : Routine bucketClient Bool := do
    Routine.ask (call (.headBucket store.bucket))
    return true
  let found ← look.recover refused fun cause =>
    if saysNotFound cause then pure false else throw (failed "버킷 확인 실패: " store.bucket)
  if !found then
    (Routine.ask (call (.createBucket store.bucket (mentionedRegion region)))).recover refused
      fun _ => pure ()

def save (store : BucketStore) (space filename : String) (source : Source) :
    Routine bucketClient String := do
  let key := objectKey space filename
  let body ← source.read
  if body.isEmpty then throw (emptyFile key)
  (Routine.ask (call (.putObject store.bucket key body))).recover Failure.isBucket fun _ =>
    throw (failed "오브젝트 저장 실패: " key)
  return key

def fetch (store : BucketStore) (key : String) : Routine bucketClient ByteArray :=
  (Routine.ask (call (.getObject store.bucket key))).recover Failure.isBucket fun cause =>
    if saysNotFound cause then
      throw (.app .objectNotFound (some ("오브젝트를 찾을 수 없습니다: " ++ key)))
    else throw (failed "오브젝트 조회 실패: " key)

def delete (store : BucketStore) : Option String → Routine bucketClient Unit
  | none => pure ()
  | some key =>
    if key.isEmpty then pure ()
    else
      (Routine.ask (call (.deleteObject store.bucket key))).recover Failure.isBucket fun _ =>
        throw (failed "오브젝트 삭제 실패: " key)

def operations (store : BucketStore) : AssetStore (Routine bucketClient) where
  saveUpload := store.save store.uploadSpace
  saveProcessed := store.save store.processedSpace
  getUpload := store.fetch
  getProcessed := store.fetch
  delete := store.delete
  deleteAll := fun upload processed => deleteEach store.delete [upload, processed] none

end BucketStore

/-- The objects of an object store by key, in the order in which they came. -/
structure Bucket where
  objects : List (String × ByteArray)

namespace Bucket

def empty : Bucket := ⟨[]⟩

def get? (b : Bucket) (key : String) : Option ByteArray := b.objects.lookup key

def put (b : Bucket) (key : String) (body : ByteArray) : Bucket :=
  ⟨b.objects.filter (fun o => o.1 != key) ++ [(key, body)]⟩

def erase (b : Bucket) (key : String) : Bucket := ⟨b.objects.filter fun o => o.1 != key⟩

theorem get?_put_self (b : Bucket) (key : String) (body : ByteArray) :
    (b.put key body).get? key = some body := by
  rw [get?, put, Association.lookup_append_single, Association.lookup_without_self]
  simp

theorem get?_put_of_ne (b : Bucket) {key other : String} (distinct : other ≠ key)
    (body : ByteArray) : (b.put key body).get? other = b.get? other := by
  rw [get?, put, Association.lookup_append_single, Association.lookup_without_of_ne distinct]
  simp [distinct, get?]

theorem get?_erase_self (b : Bucket) (key : String) : (b.erase key).get? key = none :=
  Association.lookup_without_self key b.objects

theorem get?_erase_of_ne (b : Bucket) {key other : String} (distinct : other ≠ key) :
    (b.erase key).get? other = b.get? other :=
  Association.lookup_without_of_ne distinct b.objects

def answer (c : BucketCall) (b : Bucket) : bucketClient.Reply c × Bucket :=
  match c with
  | .headBucket _ => (.ok (), b)
  | .createBucket .. => (.ok (), b)
  | .putObject _ key body => (.ok (), b.put key body)
  | .getObject _ key =>
    match b.get? key with
    | some body => (.ok body, b)
    | none => (.error (.bucketRefused "NoSuchKey"), b)
  | .deleteObject _ key => (.ok (), b.erase key)

end Bucket

end ImagePipeline.Asset

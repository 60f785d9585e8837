import ImagePipeline.Asset.FileTree
import ImagePipeline.Asset.Store

namespace ImagePipeline.Asset

abbrev OnFiles := ExceptT Failure (StateM FileTree)

structure LocalStore where
  base : Path
  uploadSpace : String
  processedSpace : String
  deriving DecidableEq, Inhabited

namespace LocalStore

def failed (message key : String) : Failure := .app .storageFailed (some (message ++ key))

def makeSpace (base : Path) (space : String) : OnFiles Unit := do
  if Path.hasNul space then throw .nulInPath
  let start : Path := if space.startsWith "/" then [] else base
  match (← get).makeDirectories [] (start ++ Path.components space) with
  | .ok tree => set tree
  | .error fault => throw fault.toFailure

def make (base : Option Path) (uploadSpace processedSpace : String) : OnFiles LocalStore := do
  match base with
  | none => throw (.app .storageFailed (some "STORAGE_LOCAL_PATH가 비어 있습니다"))
  | some base =>
    let store : LocalStore :=
      ⟨base, orUsual "original" uploadSpace, orUsual "processed" processedSpace⟩
    makeSpace base store.uploadSpace
    makeSpace base store.processedSpace
    return store

def locate (store : LocalStore) (key : String) : Except Failure Path :=
  if Path.hasNul key then .error .nulInPath
  else
    let path := Path.resolve store.base key
    if Path.isBelow store.base path then .ok path
    else .error (failed "저장소 밖을 가리키는 경로입니다: " key)

def lookFor (path : Path) : OnFiles Unit := do
  match (← get).walk path with
  | .error .nameTooLong => throw .nameTooLong
  | _ => return

def openForWriting (path : Path) (key : String) : OnFiles Unit := do
  match (← get).truncate path with
  | .ok tree => set tree
  | .error _ => throw (failed "파일 저장 실패: " key)

/-- Writes what the source delivers; if it breaks off, what came before is written all the same. -/
def copy (path : Path) (key : String) (source : Source) : OnFiles Unit := do
  modify fun tree => tree.put path (.file source.content)
  match source.broken with
  | none => return
  | some failure => throw (if failure.isDevice then failed "파일 저장 실패: " key else failure)

/-- Saves a file under a name in a namespace, and gives its key; an empty file is not kept. -/
def save (store : LocalStore) (space filename : String) (source : Source) : OnFiles String := do
  let key := objectKey space filename
  let path ← store.locate key
  lookFor path
  openForWriting path key
  copy path key source
  if source.content.isEmpty then
    modify fun tree => tree.erase path
    throw (emptyFile key)
  return key

def fetch (store : LocalStore) (key : String) : OnFiles ByteArray := do
  let path ← store.locate key
  match (← get).read path with
  | .ok bytes => return bytes
  | .error .notFound => throw (.app .objectNotFound (some ("파일을 찾을 수 없습니다: " ++ key)))
  | .error _ => throw (failed "파일 열기 실패: " key)

def delete (store : LocalStore) : Option String → OnFiles Unit
  | none => return
  | some key => do
    if key.isEmpty then return
    let path ← store.locate key
    match (← get).remove path with
    | .ok tree => set tree
    | .error .notFound => return
    | .error _ => throw (failed "파일 삭제 실패: " key)

def operations (store : LocalStore) : AssetStore OnFiles where
  saveUpload := store.save store.uploadSpace
  saveProcessed := store.save store.processedSpace
  getUpload := store.fetch
  getProcessed := store.fetch
  delete := store.delete
  deleteAll := fun upload processed => deleteEach store.delete [upload, processed] none

end LocalStore

end ImagePipeline.Asset

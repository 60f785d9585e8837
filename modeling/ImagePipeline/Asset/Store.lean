import ImagePipeline.Routine
import ImagePipeline.Asset.Path

namespace ImagePipeline.Asset

inductive Source where
  | bytes (content : ByteArray)
  | stream (content : ByteArray) (broken : Option Failure)

namespace Source

def content : Source → ByteArray
  | bytes content => content
  | stream content _ => content

def broken : Source → Option Failure
  | bytes _ => none
  | stream _ broken => broken

def read (source : Source) : Except Failure ByteArray :=
  match source.broken with
  | none => .ok source.content
  | some failure => .error failure

end Source

structure AssetStore (m : Type → Type) where
  saveUpload : String → Source → m String
  saveProcessed : String → Source → m String
  getUpload : String → m ByteArray
  getProcessed : String → m ByteArray
  delete : Option String → m Unit
  deleteAll : Option String → Option String → m Unit

/-- Attempts every deletion in order; afterwards the first failure, if any, is raised. -/
def deleteEach {m : Type → Type} [Monad m] [MonadExceptOf Failure m] (delete : Option String → m Unit)
    (paths : List (Option String)) (first : Option Failure) : m Unit :=
  match paths with
  | [] =>
    match first with
    | none => pure ()
    | some failure => throw failure
  | path :: rest => do
    let failed ← tryCatch (delete path *> pure none) fun failure => pure (some failure)
    deleteEach delete rest (first <|> failed)

def emptyFile (key : String) : Failure :=
  .app .storageFailed (some ("빈 파일은 저장할 수 없습니다: " ++ key))

def orUsual (usual given : String) : String := if given.isEmpty then usual else given

end ImagePipeline.Asset

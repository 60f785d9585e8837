import ImagePipeline.Asset.Path
import ImagePipeline.Web.Message

namespace ImagePipeline.Web

inductive Route where
  | upload
  | images
  | info (id : String)
  | processed (id : String)
  | uploaded (id : String)
  | remove (id : String)
  | health
  deriving DecidableEq, Inhabited

namespace Route

def isWord (component word : String) : Bool := component == word || component == word ++ "\n"

def ofPath (path : String) : List (String × Route) :=
  match Asset.Path.components path with
  | ["", word] =>
    if isWord word "upload" then [("POST", upload)]
    else if isWord word "images" then [("GET", images)]
    else if isWord word "health" then [("GET", health)]
    else []
  | ["", "image", id] =>
    if id.isEmpty then [] else [("GET", processed id), ("DELETE", remove id)]
  | ["", "image", id, word] =>
    if id.isEmpty then []
    else if isWord word "info" then [("GET", info id)]
    else if isWord word "original" then [("GET", uploaded id)]
    else []
  | _ => []

inductive Match where
  | found (route : Route)
  | otherMethod (allowed : String)
  | otherPath (path : String)
  | notFound
  deriving DecidableEq, Inhabited

def withoutSlashes (path : String) : String := Text.trimEnd (· == '/') path

def resolve (method path : String) : Match :=
  match (ofPath path).lookup method, ofPath path with
  | some route, _ => .found route
  | none, (allowed, _) :: _ => .otherMethod allowed
  | none, [] =>
    if (ofPath (withoutSlashes path)).isEmpty then .notFound else .otherPath (withoutSlashes path)

end Route

end ImagePipeline.Web

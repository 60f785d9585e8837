import ImagePipeline.Text.LowerCase
import ImagePipeline.Text.Percent
import ImagePipeline.Web.MediaType
import ImagePipeline.Web.Problem

namespace ImagePipeline.Web

inductive Field where
  | text (value : String)
  | file (name mediaType : String) (content : ByteArray)

namespace Field

def sentChar (c : Char) : List Char :=
  if c == '"' || (c.toNat < 32 && c.toNat != 27) then
    ['%', Text.Percent.digit (c.toNat / 16), Text.Percent.digit (c.toNat % 16)]
  else [c]

def withoutFolders (name : String) : String :=
  let drive := match name.toList with
    | _ :: ':' :: '\\' :: _ => true
    | '\\' :: '\\' :: _ => true
    | _ => false
  if drive then ((name.splitOn "\\").getLast?).getD "" else name

def arrivedName (name : String) : String :=
  withoutFolders (String.ofList (name.toList.flatMap sentChar))

def textOf (content : ByteArray) : String :=
  (String.fromUTF8? content).getD (String.ofList (content.toList.map fun b => Char.ofNat b.toNat))

/-- A field for a file as it arrives. Without a name it is a text, and a media type that is left out is
the one that the name stands for. -/
def ofFile (name : String) (mediaType : Option String) (content : ByteArray) : Field :=
  if name.isEmpty then .text (textOf content)
  else
    let named := (MediaType.ofName name).toOption.join
    .file (arrivedName name) (mediaType.getD (named.getD MediaType.unknown)) content

end Field

structure Request where
  method : String
  path : String
  query : List (String × String)
  headers : List (String × String)
  form : List (String × Field)
  server : String

def lastNamed {α : Type} (name : String) (entries : List (String × α)) : Option α :=
  entries.reverse.lookup name

namespace Request

def header? (request : Request) (name : String) : Option String :=
  (request.headers.find? fun h => Text.lowerCase h.1 == name).map (·.2)

end Request

inductive Body where
  | none
  | json (value : Json)
  | text (value : String)
  | file (content : ByteArray)

structure Response where
  status : Nat
  mediaType : Option String
  headers : List (String × String)
  body : Body
  timed : Bool

namespace Response

def json (status : Nat) (value : Json) : Response :=
  ⟨status, some "application/json", [], .json value, true⟩

def ofProblem (problem : Problem) : Response := json problem.status problem.body

def detail (status : Nat) (text : String) : Response :=
  json status (.object [("detail", .text text)])

def plain (status : Nat) (text : String) : Response :=
  ⟨status, some "text/plain; charset=utf-8", [], .text text, false⟩

def serverError : Response := plain 500 "Internal Server Error"

def withHeaders (response : Response) (headers : List (String × String)) : Response :=
  { response with headers := response.headers ++ headers }

def withoutBody (response : Response) : Response := { response with body := .none }

end Response

end ImagePipeline.Web

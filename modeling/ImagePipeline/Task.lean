import ImagePipeline.Json.Reader
import ImagePipeline.Json.Writer
import ImagePipeline.Issue

namespace ImagePipeline

inductive ProcessingType where
  | resize
  | thumbnail
  | watermark
  deriving DecidableEq, Inhabited

namespace ProcessingType

def all : List ProcessingType := [resize, thumbnail, watermark]

def name : ProcessingType → String
  | resize => "resize"
  | thumbnail => "thumbnail"
  | watermark => "watermark"

def ofName? (text : String) : Option ProcessingType := all.find? fun kind => kind.name == text

@[simp] theorem ofName?_name (kind : ProcessingType) : ofName? kind.name = some kind := by
  cases kind <;> rfl

end ProcessingType

structure Task where
  imageId : String
  kind : ProcessingType
  imageId_nonempty : imageId ≠ ""
  deriving DecidableEq

namespace Task

def imageIdMember : String := "image_id"

def kindMember : String := "processing_type"

def checkImageId : Option Json → Except Complaint { id : String // id ≠ "" }
  | none => .error .missing
  | some (.text id) => if h : id = "" then .error .emptyText else .ok ⟨id, h⟩
  | some _ => .error .notText

def checkKind : Option Json → Except Complaint ProcessingType
  | none => .error .missing
  | some (.text name) =>
    match ProcessingType.ofName? name with
    | some kind => .ok kind
    | none => .error (.notOneOf (ProcessingType.all.map (·.name)))
  | some _ => .error (.notOneOf (ProcessingType.all.map (·.name)))

def issueAt {α : Type} (name : String) : Except Complaint α → List Issue
  | .error complaint => [⟨complaint, [.member name]⟩]
  | .ok _ => []

/-- Checks the two members of a task; both are reported on. -/
def ofMembers (imageId kind : Option Json) : Except (List Issue) Task :=
  match checkImageId imageId, checkKind kind with
  | .ok id, .ok kind => .ok ⟨id.val, kind, id.property⟩
  | id, kind => .error (issueAt imageIdMember id ++ issueAt kindMember kind)

def ofJson (value : Json) : Except (List Issue) Task :=
  match value with
  | .object _ => ofMembers (value.member? imageIdMember) (value.member? kindMember)
  | _ => .error [⟨.notAnObject, []⟩]

def parse (source : String) : Except (List Issue) Task :=
  match Json.parse? source with
  | some value => ofJson value
  | none => .error [⟨.malformedJson, []⟩]

def toJson (task : Task) : Json :=
  .object [(imageIdMember, .text task.imageId), (kindMember, .text task.kind.name)]

def wire (task : Task) : String := task.toJson.write

end Task

inductive Payload where
  | text (value : String)
  | bytes (value : ByteArray)

namespace Payload

def text? : Payload → Option String
  | text value => some value
  | bytes value => String.fromUTF8? value

def isEmpty : Payload → Bool
  | text value => value.isEmpty
  | bytes value => value.isEmpty

def task (payload : Payload) : Except (List Issue) Task :=
  match payload.text? with
  | some source => Task.parse source
  | none => .error [⟨.malformedJson, []⟩]

end Payload

end ImagePipeline

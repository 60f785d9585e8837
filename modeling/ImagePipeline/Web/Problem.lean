import ImagePipeline.Failure
import ImagePipeline.Json.Value

namespace ImagePipeline.Web

/-- What is wrong with one part of a request. The first name of the location says which section of the
request the part is in. -/
structure Finding where
  location : List String
  message : String
  deriving DecidableEq, Inhabited

namespace Finding

def field (finding : Finding) : String :=
  match finding.location with
  | [] => "request"
  | part :: names =>
    let inside := ".".intercalate names
    if inside.isEmpty then part else inside

def describe (finding : Finding) : String := finding.field ++ ": " ++ finding.message

def ofIssue (part : String) (issue : Issue) : Finding :=
  ⟨part :: issue.location.map (·.text), issue.complaint.message⟩

end Finding

structure Problem where
  status : Nat
  code : String
  message : String
  deriving DecidableEq, Inhabited

namespace Problem

def body (problem : Problem) : Json :=
  .object [("error_code", .text problem.code), ("message", .text problem.message)]

def ofFault (fault : AppFault) (detail : Option String) : Problem :=
  ⟨fault.status, fault.code, Failure.appMessage fault detail⟩

def vagueMessage : String := "요청 형식이 올바르지 않습니다"

def ofFindings (findings : List Finding) : Problem :=
  let message := "; ".intercalate (findings.map (·.describe))
  ⟨422, "VALIDATION_ERROR", if message.isEmpty then vagueMessage else message⟩

end Problem

end ImagePipeline.Web

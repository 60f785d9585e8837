import ImagePipeline.Text.Blank
import ImagePipeline.Web.Message

namespace ImagePipeline.Web

structure OriginPolicy where
  admitted : List String
  deriving DecidableEq, Inhabited

namespace OriginPolicy

def parse (text : String) : OriginPolicy :=
  ⟨((text.splitOn ",").map (Text.trim Text.isSpace)).filter fun site => !site.isEmpty⟩

def admitsAll (policy : OriginPolicy) : Bool := policy.admitted.contains "*"

def admits (policy : OriginPolicy) (site : String) : Bool :=
  policy.admitsAll || policy.admitted.contains site

def permission (policy : OriginPolicy) (site : String) : List (String × String) :=
  if policy.admitsAll then [("access-control-allow-origin", "*")]
  else if policy.admits site then [("access-control-allow-origin", site)]
  else []

def mark (policy : OriginPolicy) (site : Option String) (response : Response) : Response :=
  response.withHeaders
    (("vary", "Origin") :: ((site.map policy.permission).getD []))

def methods : List String :=
  ["DELETE", "GET", "HEAD", "OPTIONS", "PATCH", "POST", "PUT", "QUERY"]

def questionParts : List String :=
  ["Origin", "Access-Control-Request-Method", "Access-Control-Request-Headers",
    "Access-Control-Request-Private-Network"]

def objections (policy : OriginPolicy) (site method : String) (request : Request) : List String :=
  (if policy.admits site then [] else ["origin"])
    ++ (if methods.contains method then [] else ["method"])
    ++ (if request.header? "access-control-request-private-network" == some "true"
        then ["private-network"] else [])

/-- The answer to the question of a browser whether a request would be taken, if the request is that
question. -/
def answer? (policy : OriginPolicy) (request : Request) : Option Response :=
  if request.method != "OPTIONS" then none
  else
    match request.header? "origin", request.header? "access-control-request-method" with
    | some site, some method =>
      let objections := policy.objections site method request
      let response :=
        if objections.isEmpty then Response.plain 200 "OK"
        else Response.plain 400 ("Disallowed CORS " ++ ", ".intercalate objections)
      let asked := match request.header? "access-control-request-headers" with
        | some names => [("access-control-allow-headers", names)]
        | none => []
      some (response.withHeaders
        ([("vary", ", ".intercalate questionParts),
          ("access-control-allow-methods", ", ".intercalate methods),
          ("access-control-max-age", "600")] ++ asked ++ policy.permission site))
    | _, _ => none

end OriginPolicy

end ImagePipeline.Web

import ImagePipeline.Text.Percent
import ImagePipeline.Text.Url

namespace ImagePipeline.Web.Target

open Text.Url (cut)

def withoutDots : List String → List String → List String
  | done, [] => done.reverse
  | done, component :: rest =>
    if component == "." then withoutDots done rest
    else if component == ".." then withoutDots (if done == [""] then done else done.drop 1) rest
    else withoutDots (component :: done) rest

def decoded (written : String) : String := (Text.Percent.decode? written).getD written

def decodedField (written : List Char) : String :=
  decoded (String.ofList (written.map fun c => if c == '+' then ' ' else c))

def queryFields (query : String) : List (String × String) :=
  ((query.splitOn "&").filter fun field => !field.isEmpty).map fun field =>
    let (name, value) := cut '=' field.toList
    (decodedField name, decodedField value)

def parse (home target : String) : String × List (String × String) :=
  let (_, target) := Text.Url.takeAuthority target.toList
  let (target, _) := cut '#' target
  let (path, query) := cut '?' target
  let path := (Text.trimEnd (· == '/') home).toList ++ '/' :: path.dropWhile (· == '/')
  let components := withoutDots [] ((String.ofList path).splitOn "/")
  (decoded ("/".intercalate components), queryFields (String.ofList query))

end ImagePipeline.Web.Target

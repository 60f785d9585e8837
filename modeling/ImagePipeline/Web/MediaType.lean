import ImagePipeline.Failure
import ImagePipeline.Text.Extension
import ImagePipeline.Text.Url
import ImagePipeline.Web.MediaTable

namespace ImagePipeline.Web.MediaType

def unknown : String := "application/octet-stream"

def ofData? (path : String) : Option String :=
  if path.contains ',' then
    let named := String.ofList (path.toList.takeWhile fun c => c != ',' && c != ';')
    some (if named.contains '=' || !named.contains '/' then "text/plain" else named)
  else none

def expanded (name : String) : String :=
  match abbreviations.lookup (Text.lowerCase (Text.extension name)) with
  | some full => Text.withoutExtension name ++ full
  | none => name

def unpacked (name : String) : String :=
  if packings.contains (Text.extension name) then Text.withoutExtension name else name

def ofFile? (name : String) : Option String :=
  let extension := Text.lowerCase (Text.extension (unpacked (expanded name)))
  (table.find? fun entry => entry.2.contains extension).map (·.1)

/-- The media type that a name stands for; one that starts like a URL must not be malformed. -/
def ofName (name : String) : Except Failure (Option String) :=
  match Text.Url.split? name with
  | none => .error .malformedAddress
  | some url =>
    if url.scheme.length ≤ 1 then .ok (ofFile? name)
    else if url.scheme == "data" then .ok (ofData? url.barePath)
    else .ok (ofFile? url.barePath)

def withCharset (mediaType : String) : String :=
  let marked := ((Text.lowerCase mediaType).splitOn "charset=").length > 1
  if mediaType.startsWith "text/" && !marked then mediaType ++ "; charset=utf-8" else mediaType

end ImagePipeline.Web.MediaType

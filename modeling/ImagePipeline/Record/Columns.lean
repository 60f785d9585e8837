import ImagePipeline.Json.Value
import ImagePipeline.Record

namespace ImagePipeline

def Record.columns (time : Instant → String) (r : Record) : List (String × Json) :=
  [("id", .text r.id),
   ("original_filename", .text r.uploadFilename),
   ("original_path", .text r.uploadPath),
   ("processed_path", .textOrNull r.processedPath),
   ("mime_type", .text r.mimeType),
   ("size", .int r.size),
   ("width", .intOrNull r.width),
   ("height", .intOrNull r.height),
   ("status", .text r.status),
   ("processing_type", .text r.processingType),
   ("error_message", .textOrNull r.errorMessage),
   ("created_at", .text (time r.createdAt)),
   ("updated_at", .text (time r.updatedAt)),
   ("processed_at", .textOrNull (r.processedAt.map time))]

def Draft.ofColumns (now : Instant) (columns : Json) : Draft :=
  let text (name : String) : Option String := (columns.member? name).bind (·.text?)
  let integer (name : String) : Option Int := (columns.member? name).bind (·.integer?)
  let stamp (name : String) : Option WrittenTime :=
    match columns.member? name with
    | some _ => (text name).bind WrittenTime.parse?
    | none => some (.ofInstant now)
  { id := text "id"
    uploadFilename := text "original_filename"
    uploadPath := text "original_path"
    processedPath := text "processed_path"
    mimeType := text "mime_type"
    size := integer "size"
    width := integer "width"
    height := integer "height"
    status := if (columns.member? "status").isSome then text "status" else some Status.pending.name
    processingType := text "processing_type"
    errorMessage := text "error_message"
    createdAt := stamp "created_at"
    updatedAt := stamp "updated_at"
    processedAt := (text "processed_at").bind WrittenTime.parse? }

end ImagePipeline

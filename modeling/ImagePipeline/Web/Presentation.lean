import ImagePipeline.Page
import ImagePipeline.Record.Columns
import ImagePipeline.Text.Blank

namespace ImagePipeline.Web

def bareServer (server : String) : String := Text.trimEnd (· == '/') server

def hiddenColumns : List String := ["original_path", "processed_path"]

def present (server : String) (r : Record) : Json :=
  let own := bareServer server ++ "/image/" ++ r.id
  let shown := (r.columns Instant.isoZulu).filter fun column => !hiddenColumns.contains column.1
  .object (shown ++
    [("original_url", .text (own ++ "/original")),
     ("processed_url", .textOrNull (if r.isProcessed then some own else none))])

def presentPage (server : String) (page : Page) (records : List Record) : Json :=
  .object
    [("images", .array (records.map (present server))),
     ("total", .int records.length),
     ("limit", .int page.limit),
     ("offset", .int page.offset)]

end ImagePipeline.Web

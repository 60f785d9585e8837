import ImagePipeline.Failure
import ImagePipeline.Image.Picture

namespace ImagePipeline

/-- What reads and writes picture files. Opening may read no more than a header and leave the cells to
loading. -/
structure Codec where
  Image : Type
  openFile : ByteArray → Except Failure Image
  load : Image → Except Failure Image
  -- laid the way its file says
  upright : Image → Except Failure Image
  size : Image → Size
  hasAlpha : Image → Bool
  -- in colours already, with opacities or without
  plain? : Image → Option Picture
  toRgb : Image → Except Failure (Raster Rgb)
  toRgba : Image → Except Failure (Raster Rgba)
  write : Raster Rgb → Int → Except Failure ByteArray

namespace Codec

structure Lawful (codec : Codec) : Prop where
  nonempty_of_openFile {bytes : ByteArray} {image : codec.Image} :
    codec.openFile bytes = .ok image → (codec.size image).isEmpty = false
  nonempty_of_toRgba {image : codec.Image} {raster : Raster Rgba} :
    (codec.size image).isEmpty = false → codec.toRgba image = .ok raster →
      0 < raster.width ∧ 0 < raster.height

end Codec

end ImagePipeline

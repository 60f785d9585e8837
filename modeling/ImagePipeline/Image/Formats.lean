import ImagePipeline.Image.Bmp
import ImagePipeline.Image.Codec
import ImagePipeline.Image.Gif
import ImagePipeline.Image.Jpeg.Reader
import ImagePipeline.Image.Jpeg.Writer
import ImagePipeline.Image.Orientation
import ImagePipeline.Image.Png
import ImagePipeline.Image.Pnm
/-!
A codec of its own, for simple files.

The content decides on the format, not a name. Interlaced PNG and PNG of 16 bits are not read, the
cells of JPEG and GIF are taken for blank, and what is written has colours in full resolution and
codes of one width. Nothing that is proved of a service relies on this codec; it is there to run one.
-/

namespace ImagePipeline.Codec

structure Stored where
  picture : Picture
  orientation : Except Failure (Option Orientation)

namespace Stored

def plain (picture : Picture) : Stored := ⟨picture, .ok none⟩

def faulty {α : Type} : Except PictureFault α → Except Failure α
  | .ok value => .ok value
  | .error fault => .error (.unreadablePicture fault)

/-- The orientation in a file that is put up with if its directory is not as it should be. -/
def lenient (orientation : Except Failure (Option Orientation)) :
    Except Failure (Option Orientation) :=
  match orientation with
  | .ok found => .ok found
  | .error _ => .ok none

/-- Reads a picture in whatever format it is. -/
def read (bytes : ByteArray) : Except Failure Stored :=
  if Bmp.hasMark bytes then (faulty (Bmp.read bytes)).map plain
  else if Gif.hasMark bytes then (faulty (Gif.read bytes)).map plain
  else if Jpeg.hasMark bytes then
    (faulty (Jpeg.read bytes)).map fun content =>
      let orientation := Orientation.ofDirectory content.directory
      ⟨content.picture, if content.strict then orientation else lenient orientation⟩
  else if Pnm.hasMark bytes then (faulty (Pnm.read bytes)).map plain
  else if Png.hasMark bytes then
    (faulty (Png.read bytes)).map fun content =>
      ⟨content.picture, match content.directory with
        | some directory => Orientation.ofDirectory directory
        | none => .ok none⟩
  else .error (.unreadablePicture .unidentified)

def upright (stored : Stored) : Except Failure Stored :=
  stored.orientation.map fun
    | some orientation => plain (orientation.apply stored.picture)
    | none => stored

def plain? (stored : Stored) : Option Picture :=
  match stored.picture.cells with
  | .rgb _ => some stored.picture
  | .rgba _ => some stored.picture
  | _ => none

end Stored

def basic : Codec where
  Image := Stored
  openFile := Stored.read
  load := .ok
  upright := Stored.upright
  size stored := ⟨stored.picture.width, stored.picture.height⟩
  hasAlpha stored := stored.picture.hasAlpha
  plain? := Stored.plain?
  toRgb stored := .ok stored.picture.toRgb
  toRgba stored := .ok stored.picture.toRgba
  write := Jpeg.write

end ImagePipeline.Codec

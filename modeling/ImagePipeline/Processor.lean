import ImagePipeline.Asset.FileTree
import ImagePipeline.Image.Decode
import ImagePipeline.Image.Encode
import ImagePipeline.Image.Fit
import ImagePipeline.Image.Watermark
import ImagePipeline.Task

namespace ImagePipeline

structure ProcessingPlan where
  resizeWidth : Int := 800
  resizeHeight : Int := 600
  thumbnailWidth : Int := 200
  thumbnailHeight : Int := 150
  watermarkOpacity : Int := 128
  outputQuality : Int := 95
  deriving DecidableEq, Inhabited

structure Processor where
  plan : ProcessingPlan
  mark : Option Picture
  deriving Inhabited

def fitPicture? {κ : Type} (ar : Arithmetic κ) (p : Picture) (width height : Int) :
    Except Failure (Option Picture) := do
  match ← fit ar ⟨p.width, p.height⟩ width height with
  | .untouched => return none
  | .inside => return some p
  | .scaled size => return some (← Resample.resize p size)

namespace Processor

def opened (codec : Codec) (bytes : ByteArray) : Except Failure (Raster Rgba) :=
  codec.openFile bytes >>= codec.toRgba

/-- Reads a mark. Trouble with the file gives no mark; any other failure is passed on. -/
def readMark (codec : Codec) (bytes : ByteArray) : Except Failure (Option Picture) :=
  match opened codec bytes with
  | .ok raster => .ok (some (.ofRgba raster))
  | .error failure => if failure.isDevice then .ok none else .error failure

/-- Loads the mark from a path, where `found` is what opening the file gives. Without a path there is no
mark; a file that cannot be opened gives none. -/
def loadMark (codec : Codec) (path : Option String) (found : Except Asset.FileFault ByteArray) :
    Except Failure (Option Picture) :=
  let path := path.getD ""
  if path.isEmpty then .ok none
  else if Asset.Path.hasNul path then .error .nulInPath
  else match found with
    | .ok bytes => readMark codec bytes
    | .error fault => if fault.toFailure.isDevice then .ok none else .error fault.toFailure

def make (codec : Codec) (plan : ProcessingPlan) (given : Option Picture) (path : Option String)
    (found : Except Asset.FileFault ByteArray) : Except Failure Processor :=
  match given with
  | some mark => .ok ⟨plan, some mark⟩
  | none => (loadMark codec path found).map fun mark => ⟨plan, mark⟩

def stamp? {κ : Type} (ar : Arithmetic κ) (processor : Processor) (p : Picture) :
    Except Failure (Option Picture) :=
  match processor.mark with
  | none => .ok none
  | some mark =>
    (Watermark.stamp ar p mark (ar.ratio processor.plan.watermarkOpacity 255)).map some

def perform? {κ : Type} (ar : Arithmetic κ) (processor : Processor) (kind : ProcessingType)
    (p : Picture) : Except Failure (Option Picture) :=
  match kind with
  | .resize => fitPicture? ar p processor.plan.resizeWidth processor.plan.resizeHeight
  | .thumbnail => fitPicture? ar p processor.plan.thumbnailWidth processor.plan.thumbnailHeight
  | .watermark => processor.stamp? ar p

/-- Does the processing with a name; nothing if the picture is left alone. -/
def process? (processor : Processor) (kind : String) (p : Picture) :
    Except Failure (Option Picture) :=
  match ProcessingType.ofName? kind with
  | some kind => processor.perform? .double kind p
  | none => .error (.app .invalidProcessingType (some ("알 수 없는 processing_type: " ++ kind)))

def process (processor : Processor) (kind : String) (p : Picture) : Except Failure Picture :=
  (processor.process? kind p).map fun made => made.getD p

def encode (codec : Codec) (processor : Processor) (p : Picture) : Except Failure ByteArray :=
  Encode.encode codec p processor.plan.outputQuality

end Processor

/-- What is done with the bytes of an upload, one stage after the other. A result is never empty. -/
structure Stages where
  decode : ByteArray → Except Failure Picture
  process : String → Picture → Except Failure Picture
  encode : Picture → Except Failure ByteArray
  nonempty_of_encode {p : Picture} {bytes : ByteArray} :
    encode p = .ok bytes → bytes.isEmpty = false

def Processor.stages (codec : Codec) (processor : Processor) : Stages where
  decode := Decode.decode codec
  process := processor.process
  encode := processor.encode codec
  nonempty_of_encode encoded := (Encode.encode_eq_ok.mp encoded).2.2

end ImagePipeline

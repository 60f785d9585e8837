import ImagePipeline.Image.Arithmetic
import ImagePipeline.Image.Picture
import ImagePipeline.Failure

namespace ImagePipeline.Resample

def pi : Float := 3.141592653589793

def sinc (x : Float) : Float :=
  if x == 0 then 1
  else
    let angle := x * pi
    angle.sin / angle

def lanczos (x : Float) : Float := if -3 ≤ x && x < 3 then sinc x * sinc (x / 3) else 0

/-- The old pixels that make up a new one: from `first` on, each with its weight. -/
structure Taps where
  first : Nat
  weights : List Int
  deriving Inhabited

def unit : Nat := 0x400000

def integerWeight (w : Float) : Int :=
  Decimal.truncate (w * unit.toFloat + if w < 0 then -0.5 else 0.5)

def tapsAt (old new : Nat) (x : Nat) : Taps :=
  let scale := old.toFloat / new.toFloat
  let stretch := if scale < 1 then 1 else scale
  let support := 3 * stretch
  let centre := (x.toFloat + 0.5) * scale
  let first := (Decimal.truncate (centre - support + 0.5)).toNat
  let last := min (Decimal.truncate (centre + support + 0.5)).toNat old
  let weights := (List.range (last - first)).map fun i =>
    lanczos (((i + first).toFloat - centre + 0.5) * (1 / stretch))
  let total := weights.foldl (· + ·) 0
  ⟨first, weights.map fun w => integerWeight (if total == 0 then w else w / total)⟩

def taps (old new : Nat) : Array Taps := Array.ofFn fun x : Fin new => tapsAt old new x

def weightedSum (channel : Nat → UInt8) : Nat → List Int → Int → Int
  | _, [], sum => sum
  | i, w :: weights, sum => weightedSum channel (i + 1) weights (sum + w * (channel i).toNat)

def weigh (t : Taps) (channel : Nat → UInt8) : UInt8 :=
  clampChannel (weightedSum channel t.first t.weights (unit / 2 : Nat) / unit)

variable {α : Type} [Pixel α]

def across (r : Raster α) (width : Nat) : Raster α :=
  if width = r.width then r
  else
    let all := taps r.width width
    .generate width r.height fun x y =>
      let t := all.getD x default
      Pixel.ofChannels fun channel => weigh t fun i => Pixel.channel (r.get i y) channel

def down (r : Raster α) (height : Nat) : Raster α :=
  if height = r.height then r
  else
    let all := taps r.height height
    .generate r.width height fun x y =>
      let t := all.getD y default
      Pixel.ofChannels fun channel => weigh t fun i => Pixel.channel (r.get x i) channel

def heightFirst (old new : Size) : Bool :=
  new.height < old.height &&
    2 * ((old.width : Int) - new.width) < (old.height : Int) - new.height

def smooth (r : Raster α) (size : Size) : Raster α :=
  if heightFirst ⟨r.width, r.height⟩ size then across (down r size.height) size.width
  else down (across r size.width) size.height

def nearest (r : Raster α) (size : Size) : Raster α :=
  let place (old new x : Nat) : Nat := (2 * x + 1) * old / (2 * new)
  .generate size.width size.height fun x y =>
    r.get (place r.width size.width x) (place r.height size.height y)

def resizeCells (size : Size) : Cells → Cells
  | .gray r => .gray (smooth r size)
  | .grayAlpha r =>
    .grayAlpha ((smooth (r.map GrayAlpha.premultiply) size).map GrayAlpha.unmultiply)
  | .indexed r palette => .indexed (nearest r size) palette
  | .rgb r => .rgb (smooth r size)
  | .rgba r => .rgba ((smooth (r.map Rgba.premultiply) size).map Rgba.unmultiply)
  | .cmyk r => .cmyk (smooth r size)
  | .ycbcr r => .ycbcr (smooth r size)

/-- The picture in a new size, which must be positive. A picture that has the size is left as it is,
and one without columns cannot be resampled; one without rows gives pixels of nothing. -/
def resize (p : Picture) (size : Size) : Except Failure Picture :=
  if p.width = size.width ∧ p.height = size.height then .ok p
  else if p.width = 0 then .error .emptyRaster
  else .ok { p with cells := resizeCells size p.cells }

end ImagePipeline.Resample

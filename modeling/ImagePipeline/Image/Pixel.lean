namespace ImagePipeline

structure Rgb where
  red : UInt8
  green : UInt8
  blue : UInt8
  deriving DecidableEq, Inhabited

structure Rgba where
  red : UInt8
  green : UInt8
  blue : UInt8
  alpha : UInt8
  deriving DecidableEq, Inhabited

structure GrayAlpha where
  gray : UInt8
  alpha : UInt8
  deriving DecidableEq, Inhabited

structure Cmyk where
  cyan : UInt8
  magenta : UInt8
  yellow : UInt8
  black : UInt8
  deriving DecidableEq, Inhabited

structure YCbCr where
  luma : UInt8
  blueDifference : UInt8
  redDifference : UInt8
  deriving DecidableEq, Inhabited

class Pixel (α : Type) extends Inhabited α where
  channels : Nat
  channel : α → Nat → UInt8
  ofChannels : (Nat → UInt8) → α

instance : Pixel UInt8 where
  channels := 1
  channel p _ := p
  ofChannels c := c 0

instance : Pixel GrayAlpha where
  channels := 2
  channel p i := match i with | 0 => p.gray | _ => p.alpha
  ofChannels c := ⟨c 0, c 1⟩

instance : Pixel Rgb where
  channels := 3
  channel p i := match i with | 0 => p.red | 1 => p.green | _ => p.blue
  ofChannels c := ⟨c 0, c 1, c 2⟩

instance : Pixel YCbCr where
  channels := 3
  channel p i := match i with | 0 => p.luma | 1 => p.blueDifference | _ => p.redDifference
  ofChannels c := ⟨c 0, c 1, c 2⟩

instance : Pixel Rgba where
  channels := 4
  channel p i := match i with | 0 => p.red | 1 => p.green | 2 => p.blue | _ => p.alpha
  ofChannels c := ⟨c 0, c 1, c 2, c 3⟩

instance : Pixel Cmyk where
  channels := 4
  channel p i := match i with | 0 => p.cyan | 1 => p.magenta | 2 => p.yellow | _ => p.black
  ofChannels c := ⟨c 0, c 1, c 2, c 3⟩

/-- A product of two channels brought back to eight bits: the nearest integer to `t / 255`. -/
def divideBy255 (t : Nat) : Nat := ((t + 128) / 256 + (t + 128)) / 256

def scaleBy (c a : UInt8) : UInt8 := (divideBy255 (c.toNat * a.toNat)).toUInt8

def divideByAlpha (c a : UInt8) : UInt8 :=
  if a = 0 ∨ a = 255 then c else (min 255 (255 * c.toNat / a.toNat)).toUInt8

def clampChannel (n : Int) : UInt8 := (min 255 n.toNat).toUInt8

namespace Rgba

def premultiply (p : Rgba) : Rgba :=
  ⟨scaleBy p.red p.alpha, scaleBy p.green p.alpha, scaleBy p.blue p.alpha, p.alpha⟩

def unmultiply (p : Rgba) : Rgba :=
  ⟨divideByAlpha p.red p.alpha, divideByAlpha p.green p.alpha, divideByAlpha p.blue p.alpha, p.alpha⟩

def opaqueColour (p : Rgba) : Rgb := ⟨p.red, p.green, p.blue⟩

def channelOverWhite (c a : UInt8) : UInt8 :=
  (divideBy255 (255 * (255 - a.toNat) + c.toNat * a.toNat)).toUInt8

def overWhite (p : Rgba) : Rgb :=
  ⟨channelOverWhite p.red p.alpha, channelOverWhite p.green p.alpha, channelOverWhite p.blue p.alpha⟩

/-- A colour channel of the result when `source` lies over `ground`: `share` of 255 · 128 comes from
the source. -/
def blendChannel (share : Nat) (source ground : UInt8) : UInt8 :=
  let t := source.toNat * share + ground.toNat * (255 * 128 - share) + 128 * 128
  ((t / 256 + t) / 256 / 128).toUInt8

def laidOver (source ground : Rgba) : Rgba :=
  if source.alpha = 0 then ground
  else
    let rest := ground.alpha.toNat * (255 - source.alpha.toNat)
    let alpha := source.alpha.toNat * 255 + rest
    let share := source.alpha.toNat * 255 * 255 * 128 / alpha
    ⟨blendChannel share source.red ground.red, blendChannel share source.green ground.green,
      blendChannel share source.blue ground.blue, (divideBy255 alpha).toUInt8⟩

end Rgba

namespace GrayAlpha

def premultiply (p : GrayAlpha) : GrayAlpha := ⟨scaleBy p.gray p.alpha, p.alpha⟩

def unmultiply (p : GrayAlpha) : GrayAlpha := ⟨divideByAlpha p.gray p.alpha, p.alpha⟩

def toRgba (p : GrayAlpha) : Rgba := ⟨p.gray, p.gray, p.gray, p.alpha⟩

end GrayAlpha

namespace Rgb

def withAlpha (p : Rgb) (alpha : UInt8) : Rgba := ⟨p.red, p.green, p.blue, alpha⟩

def ofGray (shade : UInt8) : Rgb := ⟨shade, shade, shade⟩

end Rgb

namespace Cmyk

def light (ink black : UInt8) : UInt8 := 255 - black - scaleBy ink (255 - black)

def toRgb (p : Cmyk) : Rgb :=
  ⟨light p.cyan p.black, light p.magenta p.black, light p.yellow p.black⟩

end Cmyk

namespace YCbCr

def toRgb (p : YCbCr) : Rgb :=
  let y : Int := p.luma.toNat
  let blue : Int := (p.blueDifference.toNat : Int) - 128
  let red : Int := (p.redDifference.toNat : Int) - 128
  ⟨clampChannel (y + (91881 * red + 32768) / 65536),
    clampChannel (y + (-22554 * blue - 46802 * red + 32768) / 65536),
    clampChannel (y + (116130 * blue + 32768) / 65536)⟩

end YCbCr

end ImagePipeline

import ImagePipeline.Image.Pixel
import ImagePipeline.Image.Raster
/-!
Pictures: rasters in one of several pixel layouts.

A picture in colours of a palette holds the numbers of its colours. Beside its cells a picture may
hold a note on transparency: which colour, or which colours of the palette, are to be seen through.
The note is applied when the picture is brought to the layout with an alpha channel
(`Picture.toRgba`); every other operation only carries it along.
-/

namespace ImagePipeline

namespace Raster

variable {α : Type} [Pixel α]

def ofBytes (width height : Nat) (bytes : ByteArray) : Raster α :=
  let channels := Pixel.channels α
  .generate width height fun x y =>
    Pixel.ofChannels fun channel =>
      let i := (y * width + x) * channels + channel
      if h : i < bytes.size then bytes[i] else 0

def bytes (r : Raster α) : ByteArray :=
  r.cells.foldl (fun bytes cell =>
    (List.range (Pixel.channels α)).foldl (fun bytes i => bytes.push (Pixel.channel cell i)) bytes)
    .empty

end Raster

inductive Cells where
  | gray (raster : Raster UInt8)
  | grayAlpha (raster : Raster GrayAlpha)
  | indexed (raster : Raster UInt8) (palette : Array Rgb)
  | rgb (raster : Raster Rgb)
  | rgba (raster : Raster Rgba)
  | cmyk (raster : Raster Cmyk)
  | ycbcr (raster : Raster YCbCr)
  deriving Inhabited

inductive Transparency where
  | number (n : Nat)
  | colour (red green blue : Nat)
  | table (alphas : Array UInt8)
  deriving DecidableEq, Inhabited

structure Picture where
  cells : Cells
  transparency : Option Transparency
  deriving Inhabited

namespace Transparency

def low (n : Nat) : UInt8 := (n % 256).toUInt8

def key : Transparency → Rgb
  | number n => ⟨low n, 0, 0⟩
  | colour red green blue => ⟨low red, low green, low blue⟩
  | table alphas => ⟨low alphas.size, 0, 0⟩

def alphaOf : Transparency → UInt8 → UInt8
  | number n, index => if index.toNat = n then 0 else 255
  | colour .., _ => 255
  | table alphas, index => alphas.getD index.toNat 255

end Transparency

namespace Cells

def width : Cells → Nat
  | gray r => r.width
  | grayAlpha r => r.width
  | indexed r _ => r.width
  | rgb r => r.width
  | rgba r => r.width
  | cmyk r => r.width
  | ycbcr r => r.width

def height : Cells → Nat
  | gray r => r.height
  | grayAlpha r => r.height
  | indexed r _ => r.height
  | rgb r => r.height
  | rgba r => r.height
  | cmyk r => r.height
  | ycbcr r => r.height

def bytes : Cells → ByteArray
  | gray r => r.bytes
  | grayAlpha r => r.bytes
  | indexed r _ => r.bytes
  | rgb r => r.bytes
  | rgba r => r.bytes
  | cmyk r => r.bytes
  | ycbcr r => r.bytes

def hasAlpha : Cells → Bool
  | grayAlpha _ => true
  | rgba _ => true
  | _ => false

end Cells

namespace Picture

def width (p : Picture) : Nat := p.cells.width

def height (p : Picture) : Nat := p.cells.height

def ofRgb (raster : Raster Rgb) : Picture := ⟨.rgb raster, none⟩

def ofRgba (raster : Raster Rgba) : Picture := ⟨.rgba raster, none⟩

def isEmpty (p : Picture) : Bool := p.width == 0 || p.height == 0

/-- The picture has an alpha channel, or notes what is to be seen through. -/
def hasAlpha (p : Picture) : Bool := p.cells.hasAlpha || p.transparency.isSome

def paletteColour (palette : Array Rgb) (index : UInt8) : Rgb := palette.getD index.toNat ⟨0, 0, 0⟩

def toRgb (p : Picture) : Raster Rgb :=
  match p.cells with
  | .gray r => r.map Rgb.ofGray
  | .grayAlpha r => r.map fun c => Rgb.ofGray c.gray
  | .indexed r palette => r.map (paletteColour palette)
  | .rgb r => r
  | .rgba r => r.map Rgba.opaqueColour
  | .cmyk r => r.map Cmyk.toRgb
  | .ycbcr r => r.map YCbCr.toRgb

def keyed (key : Rgb) (colour : Rgb) : Rgba := colour.withAlpha (if colour = key then 0 else 255)

/-- The cells as colours with opacities; the note is applied where the layout allows it. -/
def toRgba (p : Picture) : Raster Rgba :=
  match p.cells, p.transparency with
  | .gray r, some note => r.map fun c => keyed (Rgb.ofGray note.key.red) (Rgb.ofGray c)
  | .grayAlpha r, _ => r.map GrayAlpha.toRgba
  | .indexed r palette, some note =>
    r.map fun c => (paletteColour palette c).withAlpha (note.alphaOf c)
  | .rgb r, some note => r.map (keyed note.key)
  | .rgba r, _ => r
  | _, _ => p.toRgb.map fun c => c.withAlpha 255

@[simp] theorem toRgba_width (p : Picture) : p.toRgba.width = p.width := by
  rcases p with ⟨cells, note⟩
  cases cells <;> cases note <;> rfl

@[simp] theorem toRgba_height (p : Picture) : p.toRgba.height = p.height := by
  rcases p with ⟨cells, note⟩
  cases cells <;> cases note <;> rfl

end Picture

end ImagePipeline

import ImagePipeline.Bytes
import ImagePipeline.Failure
import ImagePipeline.Image.Picture

namespace ImagePipeline.Bmp

def hasMark (bytes : ByteArray) : Bool := Bytes.startsWith bytes [0x42, 0x4d]

structure Header where
  size : Size
  topDown : Bool
  pixelBits : Nat
  colours : Nat
  paletteStart : Nat
  cellsStart : Nat
  deriving Inhabited

def integer (bytes : ByteArray) (pos length : Nat) (fault : PictureFault) :
    Except PictureFault Nat :=
  match Bytes.integer? .little bytes pos length with
  | some n => .ok n
  | none => .error fault

def headerSizes : List Nat := [40, 52, 56, 64, 108, 124]

def readHeader (bytes : ByteArray) : Except PictureFault Header := do
  let offset ← integer bytes 10 4 .unidentified
  let headerSize ← integer bytes 14 4 .unidentified
  if bytes.size < 14 + headerSize then throw .truncated
  if !headerSizes.contains headerSize then throw .damaged
  let width ← integer bytes 18 4 .truncated
  let height ← integer bytes 22 4 .truncated
  let bits ← integer bytes 28 2 .truncated
  let compression ← integer bytes 30 4 .truncated
  let given ← integer bytes 46 4 .truncated
  if !([8, 24, 32].contains bits) || compression != 0 then throw .damaged
  let topDown := Bytes.get bytes 25 == 255
  let colours := if given == 0 then 1 <<< bits else given
  let size : Size := ⟨width, if topDown then 0x100000000 - height else height⟩
  if bits == 8 && 65536 < colours then throw .damaged
  if size.isEmpty then throw .unidentified
  if size.isTooLarge then throw .tooLarge
  let cellsStart := if bits == 8 && offset == 14 + headerSize then offset + 4 * colours else offset
  return ⟨size, topDown, bits, colours, 14 + headerSize, cellsStart⟩

namespace Header

def rowBytes (h : Header) : Nat := h.size.width * h.pixelBits / 8

def stride (h : Header) : Nat := (h.size.width * h.pixelBits + 31) / 32 * 4

def rowStart (h : Header) (y : Nat) : Nat :=
  h.cellsStart + (if h.topDown then y else h.size.height - 1 - y) * h.stride

end Header

def paletteOf (bytes : ByteArray) (h : Header) : Array Rgb :=
  Array.ofFn fun i : Fin (min h.colours 256) =>
    let byte (k : Nat) : UInt8 := (Bytes.get bytes (h.paletteStart + 4 * i.val + k)).toUInt8
    ⟨byte 2, byte 1, byte 0⟩

def isGrayRamp (palette : Array Rgb) : Bool :=
  palette.toList.zipIdx.all fun (c, i) => c == Rgb.ofGray i.toUInt8

def read (bytes : ByteArray) : Except PictureFault Picture := do
  let h ← readHeader bytes
  if bytes.size < h.cellsStart + (h.size.height - 1) * h.stride + h.rowBytes then throw .truncated
  let byte (pos : Nat) : UInt8 := (Bytes.get bytes pos).toUInt8
  if h.pixelBits == 8 then
    let palette := paletteOf bytes h
    let numbers : Raster UInt8 :=
      .generate h.size.width h.size.height fun x y => byte (h.rowStart y + x)
    return ⟨if isGrayRamp palette then .gray numbers else .indexed numbers palette, none⟩
  else
    let unit := h.pixelBits / 8
    return .ofRgb (.generate h.size.width h.size.height fun x y =>
      let pos := h.rowStart y + unit * x
      ⟨byte (pos + 2), byte (pos + 1), byte pos⟩)

end ImagePipeline.Bmp

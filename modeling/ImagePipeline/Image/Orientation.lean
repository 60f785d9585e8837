import ImagePipeline.Bytes
import ImagePipeline.Failure
import ImagePipeline.Image.Picture

namespace ImagePipeline

/-- A way to lay a picture that is not the way it is stored. -/
inductive Orientation where
  | mirrored
  | upsideDown
  | flipped
  | transposed
  | quarterRight
  | transversed
  | quarterLeft
  deriving DecidableEq, Inhabited

namespace Orientation

def ofNumber? : Nat → Option Orientation
  | 2 => some mirrored
  | 3 => some upsideDown
  | 4 => some flipped
  | 5 => some transposed
  | 6 => some quarterRight
  | 7 => some transversed
  | 8 => some quarterLeft
  | _ => none

def swapsSides : Orientation → Bool
  | transposed => true
  | quarterRight => true
  | transversed => true
  | quarterLeft => true
  | _ => false

def source (o : Orientation) (width height x y : Nat) : Nat × Nat :=
  match o with
  | mirrored => (width - 1 - x, y)
  | upsideDown => (width - 1 - x, height - 1 - y)
  | flipped => (x, height - 1 - y)
  | transposed => (y, x)
  | quarterRight => (y, height - 1 - x)
  | transversed => (width - 1 - y, height - 1 - x)
  | quarterLeft => (width - 1 - y, x)

def applyRaster {α : Type} [Inhabited α] (o : Orientation) (r : Raster α) : Raster α :=
  let (width, height) := if o.swapsSides then (r.height, r.width) else (r.width, r.height)
  .generate width height fun x y =>
    let (sx, sy) := o.source r.width r.height x y
    r.get sx sy

def applyCells (o : Orientation) : Cells → Cells
  | .gray r => .gray (o.applyRaster r)
  | .grayAlpha r => .grayAlpha (o.applyRaster r)
  | .indexed r palette => .indexed (o.applyRaster r) palette
  | .rgb r => .rgb (o.applyRaster r)
  | .rgba r => .rgba (o.applyRaster r)
  | .cmyk r => .cmyk (o.applyRaster r)
  | .ycbcr r => .ycbcr (o.applyRaster r)

def apply (o : Orientation) (p : Picture) : Picture := { p with cells := o.applyCells p.cells }

def tag : Nat := 0x0112

def unitSize? : Nat → Option Nat
  | 1 => some 1
  | 2 => some 1
  | 3 => some 2
  | 4 => some 4
  | 5 => some 8
  | 6 => some 1
  | 7 => some 1
  | 8 => some 2
  | 9 => some 4
  | 10 => some 8
  | 11 => some 4
  | 12 => some 8
  | 13 => some 4
  | 16 => some 8
  | _ => none

def isInteger (kind : Nat) : Bool := [3, 4, 6, 8, 9, 13, 16].contains kind

def entryNumber? (order : Bytes.Order) (data : ByteArray) (kind unit : Nat) : Option Nat :=
  if isInteger kind then Bytes.integer? order data 0 unit else none

def entries (order : Bytes.Order) (bytes : ByteArray) : Nat → Nat → Option Nat → Option Nat
  | 0, _, found => found
  | count + 1, pos, found =>
    match Bytes.integer? order bytes pos 2, Bytes.integer? order bytes (pos + 2) 2,
        Bytes.integer? order bytes (pos + 4) 4, Bytes.integer? order bytes (pos + 8) 4 with
    | some entryTag, some kind, some number, some offset =>
      match unitSize? kind with
      | none => entries order bytes count (pos + 12) found
      | some unit =>
        let size := number * unit
        let start := if 4 < size then offset else pos + 8
        match Bytes.slice? bytes start size with
        | none => found
        | some data =>
          let found := if entryTag = tag && size != 0 then entryNumber? order data kind unit
            else found
          entries order bytes count (pos + 12) found
    | _, _, _, _ => found

def starts : List (List UInt8 × Bytes.Order) :=
  [([0x4d, 0x4d, 0, 0x2a], .big), ([0x49, 0x49, 0x2a, 0], .little),
    ([0x4d, 0x4d, 0x2a, 0], .big), ([0x49, 0x49, 0, 0x2a], .little)]

def withoutMark (bytes : ByteArray) : Nat → ByteArray
  | 0 => bytes
  | fuel + 1 =>
    if Bytes.startsWith bytes [0x45, 0x78, 0x69, 0x66, 0, 0] then
      withoutMark (bytes.extract 6 bytes.size) fuel
    else bytes

/-- The orientation that a directory tells. One with an unknown start, and one that ends before it
says where its entries are, is an error; an empty one tells nothing. -/
def ofDirectory (bytes : ByteArray) : Except Failure (Option Orientation) :=
  let bytes := withoutMark bytes bytes.size
  if bytes.isEmpty then .ok none
  else
    match starts.find? fun s => Bytes.startsWith bytes s.1 with
    | none => .error .unknownHeader
    | some (_, order) =>
      match Bytes.integer? order bytes 4 4 with
      | none => .error .cutHeader
      | some first =>
        match Bytes.integer? order bytes first 2 with
        | none => .ok none
        | some count => .ok ((entries order bytes count (first + 2) none).bind ofNumber?)

end Orientation

end ImagePipeline

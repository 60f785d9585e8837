import ImagePipeline.Checksum
import ImagePipeline.Failure
import ImagePipeline.Image.Inflate
import ImagePipeline.Image.Picture

namespace ImagePipeline.Png

def mark : List UInt8 := [0x89, 0x50, 0x4e, 0x47, 0x0d, 0x0a, 0x1a, 0x0a]

def hasMark (bytes : ByteArray) : Bool := Bytes.startsWith bytes mark

structure Chunk where
  name : String
  data : ByteArray
  deriving Inhabited

def isNameByte (b : UInt8) : Bool :=
  let c := Char.ofNat b.toNat
  c.isAlphanum || c == '_'

def nameAt? (bytes : ByteArray) (pos : Nat) : Option String :=
  match Bytes.slice? bytes pos 4 with
  | some name =>
    if name.toList.all isNameByte then some (String.ofList (name.toList.map fun b => Char.ofNat b.toNat))
    else none
  | none => none

def checksumFits (bytes : ByteArray) (pos length : Nat) : Bool :=
  match Bytes.integer? .big bytes (pos + 8 + length) 4 with
  | some sum => sum == (Checksum.crc32 (bytes.extract (pos + 4) (pos + 8 + length))).toNat
  | none => false

def headChunks (bytes : ByteArray) : Nat → Nat → Except PictureFault (List Chunk × Nat)
  | 0, _ => .error .unidentified
  | fuel + 1, pos =>
    match Bytes.integer? .big bytes pos 4, nameAt? bytes (pos + 4) with
    | some length, some name =>
      if name == "IDAT" then .ok ([], pos)
      else
        match Bytes.slice? bytes (pos + 8) length with
        | none => .error .truncated
        | some data =>
          if name == "IHDR" && length < 13 then .error .badNumber
          else if !checksumFits bytes pos length then .error .unidentified
          else if name == "IEND" then .error .unidentified
          else do
            let (chunks, found) ← headChunks bytes fuel (pos + 12 + length)
            return (⟨name, data⟩ :: chunks, found)
    | _, _ => .error .unidentified

/-- The data of consecutive data chunks, and the position after them. The last one may be cut; a
wrong checksum is an error, a missing one is not. -/
def dataChunks (bytes : ByteArray) : Nat → Nat → ByteArray → Except PictureFault (ByteArray × Nat)
  | 0, pos, data => .ok (data, pos)
  | fuel + 1, pos, data =>
    match Bytes.integer? .big bytes pos 4, nameAt? bytes (pos + 4) with
    | some length, some name =>
      if name != "IDAT" then .ok (data, pos)
      else
        let data := data ++ bytes.extract (pos + 8) (pos + 8 + length)
        if (Bytes.integer? .big bytes (pos + 8 + length) 4).isSome && !checksumFits bytes pos length
        then .error .damaged
        else dataChunks bytes fuel (pos + 12 + length) data
    | _, _ => .ok (data, pos)

def tailChunks (bytes : ByteArray) : Nat → Nat → List Chunk
  | 0, _ => []
  | fuel + 1, pos =>
    match Bytes.integer? .big bytes pos 4, nameAt? bytes (pos + 4) with
    | some length, some name =>
      if name == "IEND" then []
      else
        match Bytes.slice? bytes (pos + 8) length with
        | some data => ⟨name, data⟩ :: tailChunks bytes fuel (pos + 12 + length)
        | none => []
    | _, _ => []

def lastChunk? (chunks : List Chunk) (name : String) : Option ByteArray :=
  (chunks.reverse.find? fun c => c.name == name).map (·.data)

inductive Layout where
  | gray (depth : Nat)
  | grayAlpha
  | indexed (depth : Nat)
  | rgb
  | rgba
  deriving DecidableEq, Inhabited

namespace Layout

def ofHeader? (depth kind : Nat) : Option Layout :=
  match kind, depth with
  | 0, 1 => some (gray 1)
  | 0, 2 => some (gray 2)
  | 0, 4 => some (gray 4)
  | 0, 8 => some (gray 8)
  | 3, 1 => some (indexed 1)
  | 3, 2 => some (indexed 2)
  | 3, 4 => some (indexed 4)
  | 3, 8 => some (indexed 8)
  | 4, 8 => some grayAlpha
  | 2, 8 => some rgb
  | 6, 8 => some rgba
  | _, _ => none

def pixelBits : Layout → Nat
  | gray depth => depth
  | grayAlpha => 16
  | indexed depth => depth
  | rgb => 24
  | rgba => 32

end Layout

structure Header where
  size : Size
  layout : Layout
  deriving Inhabited

def readHeader (chunks : List Chunk) : Except PictureFault Header := do
  match lastChunk? chunks "IHDR" with
  | none => throw .unidentified
  | some data =>
    let size : Size := ⟨Bytes.bigBefore data 4 4, Bytes.bigBefore data 8 4⟩
    match Layout.ofHeader? (Bytes.get data 8) (Bytes.get data 9) with
    | none => throw .unidentified
    | some layout =>
      if Bytes.get data 11 != 0 || size.isEmpty then throw .unidentified
      if size.isTooLarge then throw .tooLarge
      return ⟨size, layout⟩

def nearestOfThree (left above corner : Nat) : Nat :=
  let base : Int := (left : Int) + above - corner
  let distance (n : Nat) : Nat := (base - n).natAbs
  if distance left ≤ distance above ∧ distance left ≤ distance corner then left
  else if distance above ≤ distance corner then above
  else corner

def prediction (filter left above corner : Nat) : Option Nat :=
  match filter with
  | 0 => some 0
  | 1 => some left
  | 2 => some above
  | 3 => some ((left + above) / 2)
  | 4 => some (nearestOfThree left above corner)
  | _ => none

def unfilterRow (filter unit : Nat) (above : ByteArray) (filtered : ByteArray) :
    Nat → Nat → ByteArray → Option ByteArray
  | 0, _, row => some row
  | count + 1, i, row => do
    let before (bytes : ByteArray) : Nat := if i < unit then 0 else Bytes.get bytes (i - unit)
    let p ← prediction filter (before row) (Bytes.get above i) (before above)
    unfilterRow filter unit above filtered count (i + 1)
      (row.push (Bytes.get filtered i + p).toUInt8)

def unfilter (unit rowSize : Nat) (data : ByteArray) :
    Nat → Nat → ByteArray → Except PictureFault (List ByteArray)
  | 0, _, _ => .ok []
  | rows + 1, pos, above =>
    match Bytes.slice? data (pos + 1) rowSize with
    | none => .ok []
    | some filtered =>
      match unfilterRow (Bytes.get data pos) unit above filtered rowSize 0 .empty with
      | none => .error .damaged
      | some row => (unfilter unit rowSize data rows (pos + 1 + rowSize) row).map (row :: ·)

def sample (row : ByteArray) (depth x : Nat) : Nat :=
  (Bytes.get row (x * depth / 8) >>> (8 - depth - x * depth % 8)) % (1 <<< depth)

def rasterOf {α : Type} (size : Size) (rows : Array ByteArray) (pixel : ByteArray → Nat → α) :
    Raster α :=
  .generate size.width size.height fun x y => pixel (rows.getD y .empty) x

def paletteOf (data : ByteArray) : Array Rgb :=
  Array.ofFn fun i : Fin (data.size / 3) =>
    let byte (k : Nat) : UInt8 := (Bytes.get data (3 * i.val + k)).toUInt8
    ⟨byte 0, byte 1, byte 2⟩

def cellsOf (header : Header) (palette : Array Rgb) (rows : Array ByteArray) : Cells :=
  let byte (row : ByteArray) (i : Nat) : UInt8 := (Bytes.get row i).toUInt8
  match header.layout with
  | .gray depth =>
    .gray (rasterOf header.size rows fun row x =>
      (sample row depth x * (255 / ((1 <<< depth) - 1))).toUInt8)
  | .grayAlpha =>
    .grayAlpha (rasterOf header.size rows fun row x => ⟨byte row (2 * x), byte row (2 * x + 1)⟩)
  | .indexed depth =>
    .indexed (rasterOf header.size rows fun row x => (sample row depth x).toUInt8) palette
  | .rgb =>
    .rgb (rasterOf header.size rows fun row x =>
      ⟨byte row (3 * x), byte row (3 * x + 1), byte row (3 * x + 2)⟩)
  | .rgba =>
    .rgba (rasterOf header.size rows fun row x =>
      ⟨byte row (4 * x), byte row (4 * x + 1), byte row (4 * x + 2), byte row (4 * x + 3)⟩)

def loneTransparent? (data : ByteArray) : Option Nat :=
  match data.toList.zipIdx.filter fun (a, _) => a != 255 with
  | [(0, index)] => some index
  | _ => none

/-- What a transparency chunk says, for the layout it belongs to; one that is too short is not as the
format asks. -/
def transparencyOf (layout : Layout) (data : ByteArray) :
    Except PictureFault (Option Transparency) :=
  let two (pos : Nat) : Except PictureFault Nat :=
    match Bytes.integer? .big data pos 2 with
    | some n => .ok n
    | none => .error .unidentified
  match layout with
  | .indexed _ =>
    match loneTransparent? data with
    | some index => .ok (some (.number index))
    | none => .ok (some (.table ⟨data.toList⟩))
  | .gray _ => do return some (.number (← two 0))
  | .rgb => do return some (.colour (← two 0) (← two 2) (← two 4))
  | _ => .ok none

structure Content where
  picture : Picture
  directory : Option ByteArray

def readPalette (layout : Layout) (chunks : List Chunk) : Except PictureFault (Array Rgb) :=
  match layout, lastChunk? chunks "PLTE" with
  | .indexed _, none => .error .unidentified
  | .indexed _, some data => if 768 < data.size then .error .badNumber else .ok (paletteOf data)
  | _, _ => .ok #[]

def readTransparency (layout : Layout) (chunks : List Chunk) :
    Except PictureFault (Option Transparency) :=
  match lastChunk? chunks "tRNS" with
  | some data => transparencyOf layout data
  | none => .ok none

def readRows (header : Header) (compressed : ByteArray) : Except PictureFault (List ByteArray) :=
  let rowSize := (header.size.width * header.layout.pixelBits + 7) / 8
  let unit := max (header.layout.pixelBits / 8) 1
  let wanted := header.size.height * (rowSize + 1)
  match Inflate.stream compressed wanted with
  | none => .error .damaged
  | some (data, ending) =>
    if ending == .cut && data.size < wanted then .error .truncated
    else unfilter unit rowSize data header.size.height 0 .empty

def read (bytes : ByteArray) : Except PictureFault Content := do
  let (head, dataStart) ← headChunks bytes bytes.size 8
  let header ← readHeader head
  let palette ← readPalette header.layout head
  let (compressed, dataEnd) ← dataChunks bytes bytes.size dataStart .empty
  let chunks := head ++ tailChunks bytes bytes.size dataEnd
  let transparency ← readTransparency header.layout chunks
  let rows ← readRows header compressed
  return ⟨⟨cellsOf header palette rows.toArray, transparency⟩, lastChunk? chunks "eXIf"⟩

end ImagePipeline.Png

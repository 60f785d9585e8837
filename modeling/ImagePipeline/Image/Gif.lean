import ImagePipeline.Bytes
import ImagePipeline.Failure
import ImagePipeline.Image.Picture

namespace ImagePipeline.Gif

def hasMark (bytes : ByteArray) : Bool :=
  Bytes.startsWith bytes [0x47, 0x49, 0x46, 0x38, 0x37, 0x61]
    || Bytes.startsWith bytes [0x47, 0x49, 0x46, 0x38, 0x39, 0x61]

def paletteBytes (flags : Nat) : Nat := if flags < 128 then 0 else 3 <<< (flags % 8 + 1)

/-- The position after a sequence of blocks that begin with their lengths. -/
def skipBlocks? (bytes : ByteArray) : Nat → Nat → Option Nat
  | 0, _ => none
  | fuel + 1, pos =>
    match Bytes.at? bytes pos with
    | none => none
    | some 0 => some (pos + 1)
    | some length => skipBlocks? bytes fuel (pos + 1 + length.toNat)

/-- The number of the colour to be seen through that an extension at a position tells. -/
def transparencyAt (bytes : ByteArray) (pos : Nat) : Option Transparency :=
  if Bytes.get bytes (pos + 1) == 0xf9 && 4 ≤ Bytes.get bytes (pos + 2)
      && Bytes.get bytes (pos + 3) % 2 == 1 then
    some (.number (Bytes.get bytes (pos + 6)))
  else none

def findPicture (bytes : ByteArray) (screen : Size) :
    Nat → Nat → Option Transparency → Except PictureFault Picture
  | 0, _, _ => .error .unidentified
  | fuel + 1, pos, transparency =>
    match Bytes.at? bytes pos with
    | some 0x21 =>
      let transparency := (transparencyAt bytes pos).orElse fun _ => transparency
      match skipBlocks? bytes bytes.size (pos + 2) with
      | some next => findPicture bytes screen fuel next transparency
      | none => .error .unidentified
    | some 0x2c =>
      match Bytes.slice? bytes (pos + 1) 9 with
      | none => .error .unidentified
      | some block =>
        let side (at0 length screenSide : Nat) : Nat :=
          max screenSide (Bytes.littleAt block at0 2 + Bytes.littleAt block length 2)
        let data := pos + 10 + paletteBytes (Bytes.get block 8)
        match skipBlocks? bytes bytes.size (data + 1) with
        | none => .error .truncated
        | some _ =>
          .ok ⟨.indexed (.uniform (side 0 4 screen.width) (side 2 6 screen.height) 0) #[],
            transparency⟩
    | some 0x3b => .error .unidentified
    | some _ => findPicture bytes screen fuel (pos + 1) transparency
    | none => .error .unidentified

def read (bytes : ByteArray) : Except PictureFault Picture :=
  match Bytes.slice? bytes 6 7 with
  | none => .error .unidentified
  | some screen => do
    let size : Size := ⟨Bytes.littleAt screen 0 2, Bytes.littleAt screen 2 2⟩
    if size.isTooLarge then throw .tooLarge
    let picture ← findPicture bytes size bytes.size (13 + paletteBytes (Bytes.get screen 4)) none
    if picture.isEmpty then throw .unidentified
    return picture

end ImagePipeline.Gif

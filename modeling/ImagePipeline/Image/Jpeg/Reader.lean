import ImagePipeline.Bytes
import ImagePipeline.Failure
import ImagePipeline.Image.Picture

namespace ImagePipeline.Jpeg

def hasMark (bytes : ByteArray) : Bool := Bytes.startsWith bytes [0xff, 0xd8, 0xff]

structure Header where
  size : Size
  components : Nat
  directory : ByteArray
  hasResolution : Bool
  deriving Inhabited

def isFrame (code : Nat) : Bool :=
  0xc0 ≤ code && code ≤ 0xcf && !([0xc4, 0xc8, 0xcc].contains code)

def standsAlone (code : Nat) : Bool := (0xd0 ≤ code && code ≤ 0xd8) || code == 0x01

def directoryMark : List UInt8 := [0x45, 0x78, 0x69, 0x66, 0, 0]

def applySegment (code : Nat) (data : ByteArray) (h : Header) : Except PictureFault Header :=
  if isFrame code then
    let size : Size := ⟨Bytes.bigBefore data 5 2, Bytes.bigBefore data 3 2⟩
    let components := Bytes.get data 5
    if data.size < 6 || Bytes.get data 0 != 8 || !([1, 3, 4].contains components) then
      .error .unidentified
    else .ok { h with size, components }
  else if code = 0xe1 && Bytes.startsWith data directoryMark then
    .ok { h with directory :=
      if h.directory.isEmpty then data else h.directory ++ data.extract 6 data.size }
  else if code = 0xe0 && Bytes.startsWith data [0x4a, 0x46, 0x49, 0x46] then
    .ok { h with hasResolution := h.hasResolution || [1, 2].contains (Bytes.get data 7) }
  else .ok h

def segments (bytes : ByteArray) : Nat → Nat → Header → Except PictureFault (Header × Nat)
  | 0, _, _ => .error .unidentified
  | fuel + 1, pos, h =>
    match Bytes.at? bytes pos, Bytes.at? bytes (pos + 1) with
    | some 0xff, some code =>
      let code := code.toNat
      if code = 0xff then segments bytes fuel (pos + 1) h
      else if code = 0 || standsAlone code then segments bytes fuel (pos + 2) h
      else if code = 0xd9 then segments bytes fuel (pos + 2) h
      else if code < 0xc0 then .error .unidentified
      else
        match Bytes.integer? .big bytes (pos + 2) 2 with
        | none => .error .unidentified
        | some length =>
          match Bytes.slice? bytes (pos + 4) (length - 2) with
          | none => .error .truncated
          | some data => do
            let h ← applySegment code data h
            let next := pos + 4 + (length - 2)
            if code = 0xda then return (h, next) else segments bytes fuel next h
    | some _, some _ => segments bytes fuel (pos + 1) h
    | _, _ => .error .unidentified

def hasEnd (bytes : ByteArray) : Nat → Nat → Bool
  | 0, _ => false
  | fuel + 1, pos =>
    match Bytes.at? bytes pos, Bytes.at? bytes (pos + 1) with
    | some 0xff, some 0xd9 => true
    | some _, some _ => hasEnd bytes fuel (pos + 1)
    | _, _ => false

def blank (size : Size) (components : Nat) : Cells :=
  match components with
  | 1 => .gray (.uniform size.width size.height 0)
  | 4 => .cmyk (.uniform size.width size.height default)
  | _ => .rgb (.uniform size.width size.height default)

def readHeader (bytes : ByteArray) : Except PictureFault (Header × Nat) := do
  let (h, start) ← segments bytes bytes.size 2 ⟨⟨0, 0⟩, 0, .empty, false⟩
  if h.size.isEmpty then throw .unidentified
  if h.size.isTooLarge then throw .tooLarge
  return (h, start)

/-- A picture without its cells, and the directory that tells its orientation. A directory that is not
as it should be counts only in a file that tells its resolution. -/
structure Content where
  picture : Picture
  directory : ByteArray
  strict : Bool

def read (bytes : ByteArray) : Except PictureFault Content := do
  let (h, start) ← readHeader bytes
  if !hasEnd bytes bytes.size start then throw .truncated
  return ⟨⟨blank h.size h.components, none⟩, h.directory, h.hasResolution⟩

def size? (bytes : ByteArray) : Option Size :=
  if hasMark bytes then
    match read bytes with
    | .ok content => some ⟨content.picture.width, content.picture.height⟩
    | .error _ => none
  else none

end ImagePipeline.Jpeg

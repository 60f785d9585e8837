import ImagePipeline.Image.Codec

namespace ImagePipeline.Decode

/-- Decoding reports these failures as bad data; others pass. -/
def isExpected : Failure → Bool
  | .unreadablePicture .tooLarge => true
  | cause => cause.isDevice || cause.isValue

def report : Failure → Failure := .reported .invalidImageData "이미지 디코딩 실패" isExpected

variable (codec : Codec)

def shown (bytes : ByteArray) : Except Failure codec.Image := do
  let image ← codec.openFile bytes
  codec.upright (← codec.load image)

def normalized (image : codec.Image) : Except Failure Picture :=
  match codec.plain? image with
  | some p => .ok p
  | none =>
    if codec.hasAlpha image then (codec.toRgba image).map .ofRgba
    else (codec.toRgb image).map .ofRgb

def decode (bytes : ByteArray) : Except Failure Picture := do
  let image ← (shown codec bytes).mapError report
  if (codec.size image).isEmpty then
    throw (.app .invalidImageData (some "디코딩된 이미지의 크기가 0입니다"))
  normalized codec image

end ImagePipeline.Decode
